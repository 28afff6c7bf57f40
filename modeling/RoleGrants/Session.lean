import RoleGrants.Store.Insert
import RoleGrants.Event

/-!
# Sessions and actions

A session works on a copy of the store. What it changes is seen by its later calls and becomes
permanent with a commit; a rollback gives back what was committed last. Neither touches the clock,
whose every reading is one more than the one before, nor the events reported so far.

An action is a call of the engine on a session. It ends with an answer or with a failure, and with
the session as it then stands: a failure undoes nothing by itself, so what a failing action leaves
behind is a matter of its definition. `Action.bind_eq_ok` and `Action.bind_eq_error` take a sequence
of two actions apart.
-/

namespace RoleGrants

structure Session where
  /-- the rows as the session sees them -/
  working : Store := {}
  /-- the rows as of the last commit -/
  committed : Store := {}
  /-- the last reading of the clock, 0 before the first one -/
  clock : Nat := 0
  /-- the events reported at the level `info` and above, oldest first -/
  log : List Event := []
  deriving DecidableEq, Repr

/-- A call on a session. -/
abbrev Action := EStateM Failure Session

namespace Session

/-- The session after a commit. -/
def commit (s : Session) : Session := { s with committed := s.working }

/-- The session after a rollback. -/
def rollback (s : Session) : Session := { s with working := s.committed }

end Session

namespace Action

variable {α β : Type}

/-- Reads off the rows that the session sees. -/
def reading (f : Store → α) : Action α := fun s => .ok (f s.working) s

/-- Changes the rows that the session sees. -/
def changing (f : Store → Store) : Action Unit :=
  fun s => .ok () { s with working := f s.working }

/-- Changes the rows that the session sees, unless the store rejects the change. -/
def writing (f : Store → Except StoreError Store) : Action Unit := fun s =>
  match f s.working with
  | .ok store => .ok () { s with working := store }
  | .error e => .error (.store e) s

/-- Ends with a refusal. -/
def refuse (r : Refusal) : Action α := throw (.refused r)

/-- Goes on with an answer of the engine's rules, or ends with their refusal. -/
def accepted : Except Refusal α → Action α
  | .ok a => pure a
  | .error r => refuse r

/-- Goes on with a value that is used as what it is, or ends with the misuse. -/
def usable : Except Misuse α → Action α
  | .ok a => pure a
  | .error m => throw (.misused m)

/-- Strikes with a failure, if there is one. -/
def strike : Option Failure → Action Unit
  | some failure => throw failure
  | none => pure ()

/-- Takes a reading of the clock. -/
def readClock : Action Nat := fun s => .ok (s.clock + 1) { s with clock := s.clock + 1 }

def report (e : Event) : Action Unit := fun s => .ok () { s with log := s.log ++ [e] }

def commit : Action Unit := fun s => .ok () s.commit

def rollback : Action Unit := fun s => .ok () s.rollback

/-! ### What the primitive actions do -/

@[simp] theorem reading_run (f : Store → α) (s : Session) : reading f s = .ok (f s.working) s := rfl

@[simp] theorem changing_run (f : Store → Store) (s : Session) :
    changing f s = .ok () { s with working := f s.working } := rfl

@[simp] theorem readClock_run (s : Session) :
    readClock s = .ok (s.clock + 1) { s with clock := s.clock + 1 } := rfl

@[simp] theorem report_run (e : Event) (s : Session) :
    report e s = .ok () { s with log := s.log ++ [e] } := rfl

@[simp] theorem commit_run (s : Session) : commit s = .ok () s.commit := rfl

@[simp] theorem rollback_run (s : Session) : rollback s = .ok () s.rollback := rfl

@[simp] theorem refuse_run (r : Refusal) (s : Session) :
    (refuse r : Action α) s = .error (.refused r) s := rfl

@[simp] theorem pure_run (a : α) (s : Session) : (pure a : Action α) s = .ok a s := rfl

@[simp] theorem throw_run (f : Failure) (s : Session) : (throw f : Action α) s = .error f s := rfl

/-- A write that the store takes changes the rows seen and nothing else. -/
theorem writing_eq_ok {f : Store → Except StoreError Store} {s t : Session} {u : Unit} :
    writing f s = .ok u t ↔ ∃ store, f s.working = .ok store ∧ t = { s with working := store } := by
  unfold writing
  cases h : f s.working with
  | ok store =>
    refine ⟨fun h => ⟨store, rfl, by cases h; rfl⟩, ?_⟩
    rintro ⟨store', h', rfl⟩
    cases h'
    rfl
  | error e =>
    refine ⟨fun h => (nomatch h), ?_⟩
    rintro ⟨_, h', _⟩
    cases h'

/-- A write that the store rejects ends with the rejection and changes nothing. -/
theorem writing_eq_error {f : Store → Except StoreError Store} {s t : Session} {e : Failure} :
    writing f s = .error e t ↔ ∃ e', f s.working = .error e' ∧ e = .store e' ∧ t = s := by
  unfold writing
  cases h : f s.working with
  | ok store =>
    refine ⟨fun h => (nomatch h), ?_⟩
    rintro ⟨_, h', _⟩
    cases h'
  | error e' =>
    refine ⟨fun h => ⟨e', rfl, by cases h; exact ⟨rfl, rfl⟩⟩, ?_⟩
    rintro ⟨_, h', rfl, rfl⟩
    cases h'
    rfl

theorem accepted_eq_ok {r : Except Refusal α} {s t : Session} {a : α} :
    accepted r s = .ok a t ↔ r = .ok a ∧ t = s := by
  cases r with
  | ok b => exact ⟨fun h => by cases h; exact ⟨rfl, rfl⟩, fun ⟨h, ht⟩ => by cases h; rw [ht]; rfl⟩
  | error r => exact ⟨fun h => (nomatch h), fun ⟨h, _⟩ => (nomatch h)⟩

theorem accepted_eq_error {r : Except Refusal α} {s t : Session} {e : Failure} :
    accepted r s = .error e t ↔ ∃ r', r = .error r' ∧ e = .refused r' ∧ t = s := by
  cases r with
  | ok b => exact ⟨fun h => (nomatch h), fun ⟨_, h, _⟩ => (nomatch h)⟩
  | error r =>
    refine ⟨fun h => ⟨r, rfl, by cases h; exact ⟨rfl, rfl⟩⟩, ?_⟩
    rintro ⟨_, h, rfl, rfl⟩
    cases h
    rfl

/-! ### Sequences -/

theorem bind_run (x : Action α) (f : α → Action β) (s : Session) :
    (x >>= f) s = match x s with
      | .ok a t => f a t
      | .error e t => .error e t := by
  show EStateM.bind x f s = _
  unfold EStateM.bind
  cases x s <;> rfl

theorem map_run (f : α → β) (x : Action α) (s : Session) :
    (f <$> x) s = match x s with
      | .ok a t => .ok (f a) t
      | .error e t => .error e t := by
  show EStateM.map f x s = _
  unfold EStateM.map
  cases x s <;> rfl

/-- What a handler finds is the session as the failure left it. -/
theorem tryCatch_run (x : Action α) (handler : Failure → Action α) (s : Session) :
    tryCatch x handler s = match x s with
      | .ok a t => .ok a t
      | .error f t => handler f t := by
  show EStateM.tryCatch x handler s = _
  unfold EStateM.tryCatch
  cases x s <;> rfl

theorem bind_eq_ok {x : Action α} {f : α → Action β} {s t : Session} {b : β} :
    (x >>= f) s = .ok b t ↔ ∃ a u, x s = .ok a u ∧ f a u = .ok b t := by
  show EStateM.bind x f s = _ ↔ _
  unfold EStateM.bind
  cases h : x s with
  | ok a u => exact ⟨fun h => ⟨a, u, rfl, h⟩, fun ⟨_, _, h, h'⟩ => by cases h; exact h'⟩
  | error e u => exact ⟨fun h => (nomatch h), fun ⟨_, _, h, _⟩ => (nomatch h)⟩

theorem map_eq_ok {f : α → β} {x : Action α} {s t : Session} {b : β} :
    (f <$> x) s = .ok b t ↔ ∃ a, x s = .ok a t ∧ f a = b := by
  rw [map_run]
  constructor
  · intro h
    split at h
    · next hrun =>
      cases h
      exact ⟨_, hrun, rfl⟩
    · cases h
  · rintro ⟨a, hrun, rfl⟩
    rw [hrun]

theorem bind_eq_error {x : Action α} {f : α → Action β} {s t : Session} {e : Failure} :
    (x >>= f) s = .error e t ↔
      x s = .error e t ∨ ∃ a u, x s = .ok a u ∧ f a u = .error e t := by
  show EStateM.bind x f s = _ ↔ _
  unfold EStateM.bind
  cases h : x s with
  | ok a u =>
    refine ⟨fun h => .inr ⟨a, u, rfl, h⟩, ?_⟩
    rintro (h | ⟨_, _, h, h'⟩)
    · cases h
    · cases h; exact h'
  | error e' u =>
    refine ⟨fun h => .inl (by cases h; rfl), ?_⟩
    rintro (h | ⟨_, _, h, _⟩)
    · cases h; rfl
    · cases h

end Action

end RoleGrants
