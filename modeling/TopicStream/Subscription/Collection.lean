import TopicStream.Engine.Task

/-!
# Subscriptions to the records of a collection

The topic of a record is the name of its collection, a slash and the id of the record, or a star
for all records. Listeners to such topics are given changes.
-/

namespace TopicStream.Subscription.Collection

open Engine

/-- The topic of a record of a collection. -/
def topic (collection record : String) : String := collection ++ "/" ++ record

/-- The request that subscribes a listener to a record, which must be named. -/
def subscribe (collection record : String) (options : Options) (name : String) (crashes : Bool) :
    Except ClientError Request :=
  if record = "" then .error (.invalidArgument "record topic must be set")
  else .ok (.subscribe (topic collection record) options ⟨name, .change, crashes⟩)

/-- The request that ends the subscriptions to a record, or to all records of a collection. -/
def unsubscribe (collection : String) : Option String → Request
  | some record => .remove (.topic (topic collection record))
  | none => .remove (.starting (collection ++ "/"))

end TopicStream.Subscription.Collection
