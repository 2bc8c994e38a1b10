import TopicStream.Json.Printer
import TopicStream.Text.Form

/-!
# Subscription options and topic keys

A subscription may carry query parameters and headers for the server. Options that are not empty
are folded into the key under which the topic is registered, so that subscriptions to one topic
with different options are different topics.
-/

namespace TopicStream.Subscription

/-- What a subscription asks the server for beyond its topic. -/
structure Options where
  /-- Query parameters. -/
  query : KeyMap Json
  /-- Headers. -/
  headers : KeyMap String

namespace Options

/-- No options. -/
def none : Options := ⟨.empty, .empty⟩

instance : Inhabited Options := ⟨none⟩

/-- Whether there are no options. -/
def isEmpty (o : Options) : Bool := o.query.isEmpty && o.headers.isEmpty

/-- The options as an object, of which empty parts are left out. -/
def toJson (o : Options) : Json :=
  .object
    ((if o.headers.isEmpty then [] else [("headers", Json.ofTexts o.headers)]) ++
      (if o.query.isEmpty then [] else [("query", Json.ofMap o.query)]))

/-- The key under which a topic with these options is registered. -/
def topicKey (o : Options) (topic : String) : String :=
  if o.isEmpty then topic
  else
    let separator := if topic.toList.contains '?' then '&' else '?'
    topic ++ String.ofList (separator :: ("options=".toList ++ Text.Form.encode o.toJson.text))

end Options

end TopicStream.Subscription
