import Provisioner.Resource.Basic

/-!
What a watch on the API server says, and what it means for those who follow it.

A list, complete or not, stands between `listBegins` and `listEnds`; a list that is given up is
followed by another `listBegins`.
-/

namespace Provisioner

/-- An event of the watch. -/
inductive Event where
  | listBegins
  | listed (r : Resource)
  | listEnds
  | changed (r : Resource)
  | removed (r : Resource)
  deriving Repr, DecidableEq

/-- The resource that an event is about. -/
def Event.subject? : Event → Option Resource
  | .listed r | .changed r | .removed r => some r
  | .listBegins | .listEnds => none

/-- A change to a resource. -/
inductive Notification where
  | added (r : Resource)
  | updated (old new : Resource)
  /-- The resource as it was last seen. -/
  | deleted (r : Resource)
  deriving Repr, DecidableEq

end Provisioner
