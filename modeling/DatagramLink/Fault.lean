/-!
# Faults

What work can founder on, and how far it came.  A fault ends a program; whoever catches it finds
the state in which the work stopped, so an attempt keeps that state beside the fault.
-/

namespace DatagramLink

/-- Why something could not go on with what it was asked to do. -/
inductive Fault where
  /-- A message was started while fragments of the one before it are still unsent. -/
  | messageUnsent
  /-- A header's sequence does not fit into 31 bits. -/
  | sequenceOutOfRange
  /-- A delay and its random part add up to more milliseconds than 64 bits count. -/
  | delayTooLong
  /-- A payload is longer than anything can be in memory. -/
  | payloadTooLong
  /-- A plan has too many probes to count or a deadline too far away to be a time. -/
  | planTooLarge
  /-- A frame loop was started with a period of zero. -/
  | zeroPeriod
  deriving DecidableEq, Repr

/-- How far work on a state came. -/
structure Attempt (σ : Type) where
  /-- The state at the end, or where the work stopped. -/
  reached : σ
  /-- What stopped it, if anything did. -/
  fault : Option Fault := none

namespace Attempt

variable {σ τ α : Type}

def done (state : σ) : Attempt σ := ⟨state, none⟩

def stopped (state : σ) (fault : Fault) : Attempt σ := ⟨state, some fault⟩

/-- The state at the end, or the fault without the state. -/
def result (a : Attempt σ) : Except Fault σ :=
  match a.fault with
  | none => .ok a.reached
  | some fault => .error fault

/-- The same work as a part of something larger. -/
def map (whole : σ → τ) (a : Attempt σ) : Attempt τ := ⟨whole a.reached, a.fault⟩

/-- Goes on with more work, unless a fault stopped what came before it. -/
def andThen (a : Attempt σ) (next : σ → Attempt σ) : Attempt σ :=
  match a.fault with
  | none => next a.reached
  | some _ => a

/-- Works through a list until a fault stops it. -/
def forEach (step : σ → α → Attempt σ) : List α → σ → Attempt σ
  | [], state => done state
  | a :: rest, state => (step state a).andThen (forEach step rest)

/-- Does the same work a number of times, unless a fault stops it. -/
def iterate (step : σ → Attempt σ) (count : Nat) (state : σ) : Attempt σ :=
  forEach (fun state _ => step state) (List.range count) state

@[simp] theorem result_done (state : σ) : (done state).result = .ok state := rfl

@[simp] theorem result_stopped (state : σ) (fault : Fault) :
    (stopped state fault).result = .error fault := rfl

@[simp] theorem done_andThen (state : σ) (next : σ → Attempt σ) :
    (done state).andThen next = next state := rfl

@[simp] theorem stopped_andThen (state : σ) (fault : Fault) (next : σ → Attempt σ) :
    (stopped state fault).andThen next = stopped state fault := rfl

@[simp] theorem andThen_done (a : Attempt σ) : a.andThen done = a := by
  rcases a with ⟨state, _ | fault⟩ <;> rfl

theorem andThen_assoc (a : Attempt σ) (f g : σ → Attempt σ) :
    (a.andThen f).andThen g = a.andThen fun state => (f state).andThen g := by
  rcases a with ⟨state, _ | fault⟩ <;> rfl

@[simp] theorem map_done (whole : σ → τ) (state : σ) :
    (done state).map whole = done (whole state) := rfl

/-- What no fault stopped is done with what it reached. -/
theorem eq_done {a : Attempt σ} (hdone : a.fault = none) : a = done a.reached := by
  rcases a with ⟨state, _ | fault⟩
  · rfl
  · cases hdone

end Attempt
end DatagramLink
