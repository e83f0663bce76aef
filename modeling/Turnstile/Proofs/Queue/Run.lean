import Turnstile.Queue.Execution

namespace Turnstile.Queue

def Stage.isIdle : Stage → Bool
  | spawned | calling => true
  | _ => false

def isIdle (q : Queue) (id : Nat) : Bool := (q.stage? id).any Stage.isIdle

def outside (f : Queue → Queue) (q : Queue) : Queue := { f { q with runtime := none } with runtime := q.runtime }

/-- One thing that happens to a queue. A task that is discarded drops its slot with the runtime at hand, or where there is
none; one whose call has crashed is in the middle of its turn and has it at hand. How the executor keeps its own lists is
left open (`schedule`). -/
inductive Event where
  | act (a : Action)
  | submitOutside (job : Job)
  | poll (id : Nat)
  | discard (id : Nat)
  | vacateOutside (id : Nat)
  | schedule (r : Runtime)
  | stop
  | restart
  deriving DecidableEq, Repr

def step? (q : Queue) : Event → Option Queue
  | .act a => (q.act? a).map Prod.fst
  | .submitOutside job => some (q.outside fun q => (q.submit job).2)
  | .poll id => some (q.poll id).2
  | .discard id => if q.isIdle id then some (q.discard id) else none
  | .vacateOutside id =>
    if q.isLeaving id && q.isFree && q.stage? id ≠ some .crashed then some (q.outside (vacate id)) else none
  | .schedule r => if q.isRunning then some { q with runtime := some r } else none
  | .stop => if q.isRunning && q.tasks.isEmpty && q.drawn.isEmpty then some { q with runtime := none } else none
  | .restart => if q.isRunning then none else some { q with runtime := some {} }

inductive Loss where
  | discarded
  | crashed
  deriving DecidableEq, Repr

inductive Sign where
  | admitted (a : Admitted)
  | refused (id pending limit : Nat)
  | noRuntime
  | called (a : Admitted)
  | ended (id : Nat) (o : Outcome)
  | freed (id : Nat)
  | answered (id : Nat) (r : Http.Response)
  | lost (id : Nat) (how : Loss)
  | taken (id : Nat) (r : Http.Response)
  | dropped (id : Nat)
  deriving DecidableEq, Repr

def Sign.ofSubmission (id : Nat) (job : Job) : Except Rejection Nat → Sign
  | .ok id => .admitted ⟨id, job⟩
  | .error (.full pending limit) => .refused id pending limit
  | .error .noRuntime => .noRuntime

def callSigns (q : Queue) (id : Nat) : List Sign := (q.task? id).toList.map fun t => .called t.admitted

def signs (q : Queue) : Event → List Sign
  | .act .draw => []
  | .act (.submit id job) => [.ofSubmission id job (q.submitSection id job).1]
  | .act (.start id) => q.callSigns id
  | .act (.crash id) => q.callSigns id ++ [.lost id .crashed]
  | .act (.finish id o) => [.ended id o]
  | .act (.release id) | .act (.vacate id) | .vacateOutside id => [.freed id]
  | .act (.reply id) =>
    match q.stage? id with
    | some (.released o) => [.answered id o.answer]
    | _ => []
  | .act (.dropTicket id) => [.dropped id]
  | .submitOutside job => [.ofSubmission q.nextId job (submit job { q with runtime := none }).1]
  | .discard id => [.lost id .discarded]
  | .poll id => (q.poll id).1.toList.map (.taken id)
  | _ => []

/-- The runs from a state in which every step keeps to a discipline, with what was seen on the way. -/
inductive Run (allowed : Queue → Event → Prop) (start : Queue) : List Sign → Queue → Prop where
  | refl : Run allowed start [] start
  | step {log : List Sign} {q r : Queue} {e : Event} :
      Run allowed start log q → allowed q e → q.step? e = some r → Run allowed start (log ++ q.signs e) r

/-- What the runtime promises: it drops its tasks while it is still at hand. -/
def attended (_ : Queue) (e : Event) : Prop := ∀ id, e ≠ .vacateOutside id

variable {allowed allowed' : Queue → Event → Prop} {p q r : Queue} {log more : List Sign}

namespace Run

theorem single {e : Event} (ha : allowed q e) (h : q.step? e = some r) : Run allowed q (q.signs e) r := by
  simpa using Run.refl.step ha h

theorem trans (h : Run allowed p log q) (k : Run allowed q more r) : Run allowed p (log ++ more) r := by
  induction k with
  | refl => simpa using h
  | step _ ha hs ih =>
    rw [← List.append_assoc]
    exact ih.step ha hs

theorem mono (hm : ∀ q e, allowed q e → allowed' q e) (h : Run allowed p log q) : Run allowed' p log q := by
  induction h with
  | refl => exact .refl
  | step _ ha hs ih => exact ih.step (hm _ _ ha) hs

end Run

def play? (q : Queue) : List Event → Option (List Sign × Queue)
  | [] => some ([], q)
  | e :: es => do
    let r ← q.step? e
    let (log, s) ← play? r es
    some (q.signs e ++ log, s)

theorem run_of_play? {es : List Event} (ha : ∀ e ∈ es, ∀ q, allowed q e) (h : q.play? es = some (log, r)) :
    Run allowed q log r := by
  induction es generalizing q log with
  | nil =>
    simp only [play?, Option.some.injEq, Prod.mk.injEq] at h
    obtain ⟨rfl, rfl⟩ := h
    exact .refl
  | cons e es ih =>
    simp only [play?, Option.bind_eq_bind, Option.bind_eq_some_iff, Option.some.injEq, Prod.mk.injEq] at h
    obtain ⟨p, hp, ⟨more, s⟩, hs, rfl, rfl⟩ := h
    exact (Run.single (ha e (by simp) q) hp).trans (ih (fun e he => ha e (by simp [he])) hs)

def plainJob : Job :=
  ⟨⟨some (Bytes.ofString "http"), Bytes.ofString "up.test", [0x2F], none⟩, .get, [], none⟩

def overtaking : List Event :=
  [.act .draw, .act .draw, .act (.submit 2 plainJob), .act (.submit 1 plainJob), .act (.spawn (.submission 2)),
    .act (.start 2), .act (.finish 2 .panic), .act (.countEnd 2), .act (.countFailure 2), .act (.release 2),
    .act (.spawn (.release 2)), .act (.start 1), .act (.reply 2), .poll 2, .submitOutside plainJob]

theorem attended_overtaking : ∀ e ∈ overtaking, ∀ q, attended q e := by
  simp [overtaking, attended]

def turningAway : List Event :=
  overtaking ++ [.act .draw, .act .draw, .act (.submit 3 plainJob), .act (.submit 4 plainJob), .act .countRefusal]

theorem attended_turningAway : ∀ e ∈ turningAway, ∀ q, attended q e := by
  simp [turningAway, overtaking, attended]

def early : List Event :=
  [.act .draw, .act (.submit 1 plainJob), .act (.spawn (.submission 1)), .act (.crash 1), .act (.vacate 1)]

theorem attended_early : ∀ e ∈ early, ∀ q, attended q e := by
  simp [early, attended]

end Turnstile.Queue
