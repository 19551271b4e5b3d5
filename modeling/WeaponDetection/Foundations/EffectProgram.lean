import Mathlib.Logic.Basic
import Mathlib.Data.Option.Basic
import Mathlib.Logic.Relation

/-!
# Programs that call the world around them

A program is a tree of calls: at each call it waits for an answer of the type the call announces and
goes on with what it computed from it, until it returns or raises.  The world is not deterministic; it
is a relation between a call, the state before it, the answer and the state after it.

A `Host` runs one such program at a time over a state that outlives it.  Every program may stop
between any two calls, which is how crashes, cancellations and ordinary exits look from outside.

`Safe` is the weakest precondition of a program for the part of a run that can be cut anywhere: an
invariant at every point, a condition at every call, and postconditions for both ways to end.
`Host.Reachable.safe` carries it to every reachable state of the host.
-/

namespace WeaponDetection.Foundations

universe u

/-- The calls a program may make, and the type of the answer to each. -/
structure Interface where
  Call : Type
  Answer : Call → Type

/-- A program: a result, an error, or a call and what follows each answer. -/
inductive Program (I : Interface) (Err α : Type) where
  | done (a : α)
  | raise (e : Err)
  | call (c : I.Call) (next : I.Answer c → Program I Err α)

namespace Program

variable {I : Interface} {Err α β : Type}

/-- Sequencing: an error skips what follows. -/
def bind : Program I Err α → (α → Program I Err β) → Program I Err β
  | done a, f => f a
  | raise e, _ => raise e
  | call c next, f => call c fun answer => bind (next answer) f

/-- `try p except e: handler(e)`. -/
def handle : Program I Err α → (Err → Program I Err α) → Program I Err α
  | done a, _ => done a
  | raise e, handler => handler e
  | call c next, handler => call c fun answer => handle (next answer) handler

/-- A single call. -/
def emit (c : I.Call) : Program I Err (I.Answer c) := call c done

instance : Monad (Program I Err) where
  pure := done
  bind := bind

@[simp] theorem pure_eq (a : α) : (pure a : Program I Err α) = done a := rfl

@[simp] theorem bind_eq (p : Program I Err α) (f : α → Program I Err β) : p >>= f = p.bind f := rfl

@[simp] theorem bind_done (a : α) (f : α → Program I Err β) : (done a).bind f = f a := rfl

@[simp] theorem bind_raise (e : Err) (f : α → Program I Err β) :
    (raise e : Program I Err α).bind f = raise e := rfl

@[simp] theorem bind_emit (c : I.Call) (f : I.Answer c → Program I Err β) :
    (emit c).bind f = call c f := rfl

/-- The result or error of a program that makes no call. -/
def ofExcept : Except Err α → Program I Err α
  | .ok a => done a
  | .error e => raise e

@[simp] theorem ofExcept_ok (a : α) : (ofExcept (.ok a) : Program I Err α) = done a := rfl

@[simp] theorem ofExcept_error (e : Err) : (ofExcept (.error e) : Program I Err α) = raise e := rfl

/-- `try p finally cleanup`. -/
def finally_ (p : Program I Err α) (cleanup : Program I Err Unit) : Program I Err α :=
  (p.handle fun e => cleanup.bind fun _ => raise e).bind fun a => cleanup.bind fun _ => done a

/-- Run a program over a world that answers every call in one way. -/
def run {World : Type u} (reply : (c : I.Call) → World → I.Answer c × World) :
    Program I Err α → World → Except Err α × World
  | done a, w => (.ok a, w)
  | raise e, w => (.error e, w)
  | call c next, w => run reply (next (reply c w).1) (reply c w).2

end Program

/-- What may happen at a call: the state before, the answer, and the state after. -/
abbrev Response (I : Interface) (World : Type u) :=
  (c : I.Call) → World → I.Answer c → World → Prop

/-! ## Weakest preconditions of programs that may stop anywhere -/

section Safe

variable {I : Interface} {World : Type u} {Err α β : Type}

/-- `inv` holds at every point of every run of the program, `allowed` at every call it makes, and
`post` or `fail` where it ends. -/
def Safe (responds : Response I World) (inv : World → Prop) (allowed : I.Call → World → Prop)
    (post : α → World → Prop) (fail : Err → World → Prop) : Program I Err α → World → Prop
  | .done a, w => inv w ∧ post a w
  | .raise e, w => inv w ∧ fail e w
  | .call c next, w => inv w ∧ allowed c w ∧ ∀ answer w', responds c w answer w' →
      Safe responds inv allowed post fail (next answer) w'

variable {responds : Response I World} {inv : World → Prop} {allowed : I.Call → World → Prop}
  {post post' : α → World → Prop} {fail fail' : Err → World → Prop} {w : World}

theorem Safe.holds {p : Program I Err α} (h : Safe responds inv allowed post fail p w) : inv w := by
  cases p with
  | done a => exact h.1
  | raise e => exact h.1
  | call c next => exact h.1

/-- The rule of consequence. -/
theorem Safe.mono {p : Program I Err α} (h : Safe responds inv allowed post fail p w)
    (hpost : ∀ a w', inv w' → post a w' → post' a w')
    (hfail : ∀ e w', inv w' → fail e w' → fail' e w') :
    Safe responds inv allowed post' fail' p w := by
  induction p generalizing w with
  | done a => exact ⟨h.1, hpost a w h.1 h.2⟩
  | raise e => exact ⟨h.1, hfail e w h.1 h.2⟩
  | call c next ih => exact ⟨h.1, h.2.1, fun answer w' hr => ih answer (h.2.2 answer w' hr)⟩

/-- The rule of sequencing. -/
theorem Safe.bind {p : Program I Err α} {f : α → Program I Err β} {post₂ : β → World → Prop}
    (h : Safe responds inv allowed post fail p w)
    (hf : ∀ a w', inv w' → post a w' → Safe responds inv allowed post₂ fail (f a) w') :
    Safe responds inv allowed post₂ fail (p.bind f) w := by
  induction p generalizing w with
  | done a => exact hf a w h.1 h.2
  | raise e => exact h
  | call c next ih => exact ⟨h.1, h.2.1, fun answer w' hr => ih answer (h.2.2 answer w' hr)⟩

/-- The rule of handlers. -/
theorem Safe.handle {p : Program I Err α} {handler : Err → Program I Err α}
    (h : Safe responds inv allowed post fail p w)
    (hhandler : ∀ e w', inv w' → fail e w' →
      Safe responds inv allowed post fail' (handler e) w') :
    Safe responds inv allowed post fail' (p.handle handler) w := by
  induction p generalizing w with
  | done a => exact h
  | raise e => exact hhandler e w h.1 h.2
  | call c next ih => exact ⟨h.1, h.2.1, fun answer w' hr => ih answer (h.2.2 answer w' hr)⟩

/-- The rule of a single call. -/
theorem Safe.emit {c : I.Call} {post : I.Answer c → World → Prop} (hinv : inv w)
    (hallowed : allowed c w)
    (hpost : ∀ answer w', responds c w answer w' → inv w' ∧ post answer w') :
    Safe responds inv allowed post fail (Program.emit c : Program I Err (I.Answer c)) w :=
  ⟨hinv, hallowed, hpost⟩

/-- A safe program that cannot fail ends with a result, if the world answers every call in one of the
ways it may. -/
theorem Safe.run {reply : (c : I.Call) → World → I.Answer c × World}
    (hreply : ∀ c w, responds c w (reply c w).1 (reply c w).2) {p : Program I Err α}
    (h : Safe responds inv allowed post (fun _ _ => False) p w) :
    ∃ a w', p.run reply w = (.ok a, w') ∧ inv w' ∧ post a w' := by
  induction p generalizing w with
  | done a => exact ⟨a, w, rfl, h⟩
  | raise e => exact h.2.elim
  | call c next ih => exact ih _ (h.2.2 _ _ (hreply c w))

end Safe

/-! ## A host that runs programs over a lasting state -/

/-- A machine that runs one program at a time. -/
structure Host (I : Interface) (Err Result : Type) (World : Type u) where
  /-- The states before anything ran. -/
  init : World → Prop
  /-- The program started over a state, and the state it starts in. -/
  boot : World → Program I Err Result → World → Prop
  /-- The program that continues a finished one within the same process. -/
  resume : Result → Program I Err Result → Prop
  responds : Response I World
  /-- What a stop leaves of a state: an open transaction, say, is gone. -/
  abandon : World → World

namespace Host

variable {I : Interface} {Err Result : Type} {World : Type u} (host : Host I Err Result World)

/-- A lasting state and the process that runs over it, if any. -/
structure State (I : Interface) (Err Result : Type) (World : Type u) where
  world : World
  process : Option (Program I Err Result)

/-- One step of the host. -/
inductive Step : State I Err Result World → State I Err Result World → Prop where
  | boot {w w' : World} {p : Program I Err Result} : host.boot w p w' → Step ⟨w, none⟩ ⟨w', some p⟩
  | answer {w w' : World} {c : I.Call} {next : I.Answer c → Program I Err Result}
      {a : I.Answer c} : host.responds c w a w' → Step ⟨w, some (.call c next)⟩ ⟨w', some (next a)⟩
  | resume {w : World} {r : Result} {p : Program I Err Result} :
      host.resume r p → Step ⟨w, some (.done r)⟩ ⟨w, some p⟩
  -- a crash, a cancellation or an exit: what the process computed is gone
  | stop {w : World} {p : Program I Err Result} : Step ⟨w, some p⟩ ⟨host.abandon w, none⟩

/-- The states of the runs from an initial state with nothing running. -/
inductive Reachable : State I Err Result World → Prop where
  | init {w : World} : host.init w → Reachable ⟨w, none⟩
  | step {s s' : State I Err Result World} : Reachable s → host.Step s s' → Reachable s'

/-- Any number of steps. -/
abbrev Steps : State I Err Result World → State I Err Result World → Prop :=
  Relation.ReflTransGen host.Step

variable {host}

theorem Reachable.steps {s s' : State I Err Result World} (h : host.Reachable s)
    (hs : host.Steps s s') : host.Reachable s' := by
  induction hs with
  | refl => exact h
  | tail _ hstep ih => exact .step ih hstep

/-- If every program the host starts is safe, then in every reachable state the invariant holds and
the rest of the running program is safe. -/
theorem Reachable.safe {inv : World → Prop} {allowed : I.Call → World → Prop}
    {post : Result → World → Prop} (hinit : ∀ w, host.init w → inv w)
    (hboot : ∀ w p w', inv w → host.boot w p w' →
      Safe host.responds inv allowed post (fun _ _ => True) p w')
    (hresume : ∀ w r p, inv w → post r w → host.resume r p →
      Safe host.responds inv allowed post (fun _ _ => True) p w)
    (hstop : ∀ w, inv w → inv (host.abandon w)) {s : State I Err Result World} (h : host.Reachable s) :
    inv s.world ∧ ∀ p ∈ s.process,
      Safe host.responds inv allowed post (fun _ _ => True) p s.world := by
  induction h with
  | init h0 => exact ⟨hinit _ h0, fun p hp => by cases hp⟩
  | step _ hstep ih =>
    obtain ⟨hinv, hrun⟩ := ih
    cases hstep with
    | boot hb =>
      have hsafe := hboot _ _ _ hinv hb
      exact ⟨hsafe.holds, fun p hp => by cases hp; exact hsafe⟩
    | answer hr =>
      have hsafe := (hrun _ rfl).2.2 _ _ hr
      exact ⟨hsafe.holds, fun p hp => by cases hp; exact hsafe⟩
    | resume hr =>
      have hsafe := hresume _ _ _ hinv (hrun _ rfl).2 hr
      exact ⟨hinv, fun p hp => by cases hp; exact hsafe⟩
    | stop => exact ⟨hstop _ hinv, fun p hp => by cases hp⟩

end Host

end WeaponDetection.Foundations
