set_option autoImplicit false

/-! # The change feed

Whoever subscribes to a feed receives what is published from then on, in order. Publishing never
waits for a subscriber. The feed keeps the newest messages only; a subscriber that falls behind
is told how many messages it has lost and goes on with the oldest that is kept. While nobody is
subscribed nothing is published. -/

namespace JobMonitor

/-- The smallest power of two that is not less, and 1 for 0. -/
def feedCapacity (wanted : Nat) : Nat := wanted.nextPowerOfTwo

/-- A feed of messages. -/
structure Feed (α : Type) where
  /-- How many messages are kept. -/
  capacity : Nat
  /-- How many messages have been published. -/
  published : Nat
  /-- The newest of them, oldest first. -/
  kept : List α
  /-- The names of the subscribers, and how many of the messages each has received or lost. -/
  subscribers : List (String × Nat)
  /-- As many messages are kept as the feed has room for. -/
  kept_length : kept.length = min published capacity

/-- A new feed. -/
def Feed.new {α : Type} (wanted : Nat) : Feed α :=
  { capacity := feedCapacity wanted, published := 0, kept := [], subscribers := [],
    kept_length := by simp }

/-! ## Subscribing -/

/-- Subscribes under a name. A subscription under the same name ends. -/
def Feed.subscribe {α : Type} (f : Feed α) (name : String) : Feed α :=
  { f with subscribers := (name, f.published) :: f.subscribers.filter (·.1 ≠ name) }

/-- Ends a subscription. -/
def Feed.unsubscribe {α : Type} (f : Feed α) (name : String) : Feed α :=
  { f with subscribers := f.subscribers.filter (·.1 ≠ name) }

/-- How many of the messages a subscriber has received or lost. -/
def Feed.position? {α : Type} (f : Feed α) (name : String) : Option Nat :=
  f.subscribers.lookup name

/-- Somebody is subscribed under the name. -/
def Feed.isSubscribed {α : Type} (f : Feed α) (name : String) : Bool := (f.position? name).isSome

/-! ## Publishing -/

/-- Publishes a message to those who are subscribed. -/
def Feed.publish {α : Type} (f : Feed α) (message : α) : Feed α :=
  if f.subscribers.isEmpty then f
  else
    { f with
      published := f.published + 1
      kept := (f.kept ++ [message]).drop (f.kept.length + 1 - f.capacity)
      kept_length := by have := f.kept_length; simp only [List.length_drop, List.length_append,
        List.length_singleton]; omega }

/-- Publishes messages one after another. -/
def Feed.publishAll {α : Type} (f : Feed α) (messages : List α) : Feed α :=
  messages.foldl Feed.publish f

/-! ## Receiving -/

/-- What a subscriber finds when it asks for a message. -/
inductive Received (α : Type) where
  | message (m : α)
  /-- It has fallen behind and so many messages are lost. -/
  | lagged (lost : Nat)
  /-- It has received everything. -/
  | empty
deriving DecidableEq, Repr

/-- What a subscriber that has got so far finds, and how far it has got then. -/
def Feed.receiveFrom {α : Type} (f : Feed α) (position : Nat) : Received α × Nat :=
  let outstanding := f.published - position
  if outstanding > f.kept.length then
    (.lagged (outstanding - f.kept.length), f.published - f.kept.length)
  else
    match f.kept[f.kept.length - outstanding]? with
    | some m => (.message m, position + 1)
    | none => (.empty, position)

/-- The next message of a subscriber. -/
def Feed.receive {α : Type} (f : Feed α) (name : String) : Received α × Feed α :=
  match f.position? name with
  | none => (.empty, f)
  | some position =>
    let (received, position) := f.receiveFrom position
    (received, { f with subscribers := f.subscribers.map fun s =>
      if s.1 = name then (name, position) else s })

end JobMonitor
