import Provisioner.Resource.Reader

/-!
Events as the API server sends them back.

All that matters is whether a body is an event. Each of its fields may be absent or null, but its
kind and its version have to be right where they are given, and a series has to say when it was
last observed.
-/

namespace Provisioner.Reader

def seriesRecord : Record where
  expected := "EventSeries"
  fields := [nullable "count" (return .integer (← int32)),
    { name := "lastObservedTime", read := return .string (← moment) }]

def sourceRecord : Record where
  expected := "EventSource"
  fields := [nullableText "component", nullableText "host"]

def referenceRecord : Record where
  expected := "ObjectReference"
  fields := ["apiVersion", "fieldPath", "kind", "name", "namespace", "resourceVersion", "uid"].map
    nullableText

def eventRecord : Record where
  expected := "Event"
  fields :=
    let part (name : String) (r : Record) : Field := nullable name (return .object (← r.readOpen))
    let given (name value : String) : Field :=
      { name, read := return .string (← exactly value), presence := .optional }
    [given "apiVersion" "events.k8s.io/v1", given "kind" "Event",
     nullable "deprecatedCount" (return .integer (← int32)),
     nullableMoment "deprecatedFirstTimestamp", nullableMoment "deprecatedLastTimestamp",
     nullableMoment "eventTime", part "deprecatedSource" sourceRecord,
     part "metadata" metadataRecord, part "regarding" referenceRecord,
     part "related" referenceRecord, part "series" seriesRecord] ++
    ["action", "note", "reason", "reportingController", "reportingInstance", "type"].map
      nullableText

def event : Reader Unit := do
  let _ ← eventRecord.readOpen

end Provisioner.Reader
