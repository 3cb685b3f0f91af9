import QueryAlgebra.Value.Display

/-!
# Events

What the library reports while it works. An event is one of a few things that can happen, and its
level, message and fields follow from that; fields are shown as rendered text.

* `Event` — what happened.
* `Logged α` — a result of type `α` with the events on the way to it, in order. As a monad it runs
  one step after the other and joins their events.
-/

namespace QueryAlgebra

/-- How important an event is. -/
inductive Level
  | trace
  | debug
  | warn
deriving DecidableEq

/-- What can happen. -/
inductive Event where
  /-- A filter was written as a document. -/
  | filterSerialized (filter : Document)
  /-- An update was written as a document. -/
  | updateSerialized (update : Document)
  /-- A payload that is no update directive was left out of an update. -/
  | payloadSkipped (payload : Value)
  /-- Documents of a collection are asked for. -/
  | find (collection : String) (filter : Document)
  /-- Documents of a collection are counted. -/
  | count (collection : String) (filter : Document)
  /-- The first matching document, or every one, is about to be changed. -/
  | update (many : Bool) (collection : String) (filter update : Document)
  /-- A collection is about to be copied. -/
  | copy (source target : String)

namespace Event

/-- The level of an event. -/
def level : Event → Level
  | .filterSerialized _ => .trace
  | .updateSerialized _ => .trace
  | .payloadSkipped _ => .warn
  | _ => .debug

/-- The message of an event. -/
def message : Event → String
  | .filterSerialized _ => "serialized filter expression"
  | .updateSerialized _ => "serialized update expression"
  | .payloadSkipped _ => "skipping update payload that is not an update operator"
  | .find _ _ => "find"
  | .count _ _ => "count"
  | .update many _ _ _ => if many then "update many" else "update one"
  | .copy _ _ => "cloning collection"

/-- The named details of an event. -/
def fields : Event → List (String × String)
  | .filterSerialized d => [("filter", d.render)]
  | .updateSerialized d => [("update", d.render)]
  | .payloadSkipped v => [("payload", v.render)]
  | .find collection d => [("collection", collection), ("filter", d.render)]
  | .count collection d => [("collection", collection), ("filter", d.render)]
  | .update _ collection d changes =>
    [("collection", collection), ("filter", d.render), ("update", changes.render)]
  | .copy source target => [("source", source), ("target", target)]

end Event

/-- A result with the events on the way to it. -/
structure Logged (α : Type) where
  value : α
  events : List Event

namespace Logged

variable {α β : Type}

/-- One event. -/
def report (e : Event) : Logged Unit :=
  ⟨(), [e]⟩

instance : Monad Logged where
  pure a := ⟨a, []⟩
  bind x f := ⟨(f x.value).value, x.events ++ (f x.value).events⟩

@[simp] theorem value_pure (a : α) : (pure a : Logged α).value = a := rfl

@[simp] theorem events_pure (a : α) : (pure a : Logged α).events = [] := rfl

@[simp] theorem value_bind (x : Logged α) (f : α → Logged β) :
    (x >>= f).value = (f x.value).value := rfl

@[simp] theorem events_bind (x : Logged α) (f : α → Logged β) :
    (x >>= f).events = x.events ++ (f x.value).events := rfl

@[simp] theorem value_map (f : α → β) (x : Logged α) : (f <$> x).value = f x.value := rfl

@[simp] theorem events_map (f : α → β) (x : Logged α) : (f <$> x).events = x.events := by
  simp [Functor.map]

@[simp] theorem events_report (e : Event) : (report e).events = [e] := rfl

end Logged

end QueryAlgebra
