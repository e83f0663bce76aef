namespace Turnstile.Lifecycle

/-- `sent` counts the signals kept; a receiver is the number of signals it has passed, or none once it is dropped. -/
structure Broadcast where
  sent : Nat := 0
  handles : List Bool := [true]
  receivers : List (Option Nat) := []
  deriving DecidableEq, Repr

inductive Reception where
  | signal
  | empty
  | closed
  | lagged (missed : Nat)
  deriving DecidableEq, Repr

namespace Broadcast

def hasHandle (b : Broadcast) (i : Nat) : Bool := b.handles.getD i false

def isOpen (b : Broadcast) : Bool := b.handles.any id

def receiverCount (b : Broadcast) : Nat := b.receivers.countP Option.isSome

def passed? (b : Broadcast) (i : Nat) : Option Nat := (b.receivers[i]?).join

def subscribe (b : Broadcast) : Broadcast := { b with receivers := b.receivers ++ [some b.sent] }

def copyHandle (b : Broadcast) : Broadcast := { b with handles := b.handles ++ [true] }

def trigger (b : Broadcast) : Broadcast := if b.receiverCount = 0 then b else { b with sent := b.sent + 1 }

def dropHandle (b : Broadcast) (i : Nat) : Broadcast := { b with handles := b.handles.set i false }

def dropReceiver (b : Broadcast) (i : Nat) : Broadcast := { b with receivers := b.receivers.set i none }

/-- What a receiver that has passed so many signals finds, and how many it has passed then. -/
def next (b : Broadcast) (passed : Nat) : Reception × Nat :=
  if passed ≥ b.sent then (if b.isOpen then .empty else .closed, passed)
  else if passed + 1 = b.sent then (.signal, passed + 1)
  else (.lagged (b.sent - 1 - passed), b.sent - 1)

def receive (b : Broadcast) (i passed : Nat) : Reception × Broadcast :=
  let (r, passed) := b.next passed
  (r, { b with receivers := b.receivers.set i (some passed) })

theorem sent_trigger_of_pos {b : Broadcast} (h : 0 < b.receiverCount) : b.trigger.sent = b.sent + 1 := by
  simp [trigger, Nat.ne_of_gt h]

theorem passed?_eq_some_iff {b : Broadcast} {i n : Nat} :
    b.passed? i = some n ↔ b.receivers[i]? = some (some n) :=
  Option.join_eq_some_iff

theorem passed?_subscribe (b : Broadcast) : b.subscribe.passed? b.receivers.length = some b.sent := by
  simp [subscribe, passed?]

theorem passed?_subscribe_of_some {b : Broadcast} {i n : Nat} (h : b.passed? i = some n) :
    b.subscribe.passed? i = some n := by
  rw [passed?_eq_some_iff] at h ⊢
  have hi : i < b.receivers.length := (List.getElem?_eq_some_iff.mp h).1
  rw [subscribe, List.getElem?_append_left hi]
  exact h

theorem receiverCount_pos {b : Broadcast} {i n : Nat} (h : b.passed? i = some n) : 0 < b.receiverCount :=
  List.countP_pos_iff.mpr ⟨some n, List.mem_of_getElem? (passed?_eq_some_iff.mp h), rfl⟩

theorem passed?_trigger (b : Broadcast) (i : Nat) : b.trigger.passed? i = b.passed? i := by
  unfold trigger
  split <;> rfl

theorem isOpen_trigger (b : Broadcast) : b.trigger.isOpen = b.isOpen := by
  unfold trigger
  split <;> rfl

theorem next_of_lt {b : Broadcast} {passed : Nat} (h : passed < b.sent) :
    (b.next passed).1 = .signal ∨ (b.next passed).1 = .lagged (b.sent - 1 - passed) := by
  by_cases hs : passed + 1 = b.sent <;> simp [next, Nat.not_le.2 h, hs]

/-- One thing that the owner of a handle or of a receiver may do. -/
inductive Step where
  | subscribe (handle : Nat)
  | copy (handle : Nat)
  | trigger (handle : Nat)
  | count (handle : Nat)
  | receive (receiver : Nat)
  | dropReceiver (receiver : Nat)
  | dropHandle (handle : Nat)
  deriving DecidableEq, Repr

inductive Result where
  | none
  | done
  | number (n : Nat)
  | received (r : Reception)
  | dropped (existed : Bool)
  deriving DecidableEq, Repr

def step (b : Broadcast) : Step → Result × Broadcast
  | .subscribe i => if b.hasHandle i then (.number b.receivers.length, b.subscribe) else (.none, b)
  | .copy i => if b.hasHandle i then (.number b.handles.length, b.copyHandle) else (.none, b)
  | .trigger i => if b.hasHandle i then (.done, b.trigger) else (.none, b)
  | .count i => if b.hasHandle i then (.number b.receiverCount, b) else (.none, b)
  | .receive i =>
    match b.passed? i with
    | some passed =>
      let (r, b) := b.receive i passed
      (.received r, b)
    | none => (.none, b)
  | .dropReceiver i => (.dropped (b.passed? i).isSome, b.dropReceiver i)
  | .dropHandle i => (.dropped (b.hasHandle i), b.dropHandle i)

def visibleCount (b : Broadcast) : Option Nat := if b.isOpen then some b.receiverCount else none

def run (b : Broadcast) : List Step → List (Result × Option Nat)
  | [] => []
  | s :: rest =>
    let (r, b) := b.step s
    (r, b.visibleCount) :: b.run rest

end Broadcast

end Turnstile.Lifecycle
