import NodeRedBull.Js.Value

/-! What of a BullMQ job reaches a Node-RED message (`lib/serialization.js`). -/

namespace NodeRedBull.Serialization
open Js

def copyKnownFields (source : JsValue) (fields : List String) : JsValue :=
  if source.truthy then
    .object ((fields.map fun field => (field, source.get field)).filter
      fun entry => !entry.2.isUndefined)
  else source

def knownFields : List String :=
  ["id", "name", "queueName", "data", "opts", "progress", "attemptsMade", "attemptsStarted",
    "failedReason", "stacktrace", "returnvalue", "timestamp", "processedOn", "finishedOn",
    "delay", "priority", "parentKey", "deduplicationId"]

def serializeJob (job : JsValue) : JsValue :=
  if job.truthy then copyKnownFields job knownFields else job

end NodeRedBull.Serialization
