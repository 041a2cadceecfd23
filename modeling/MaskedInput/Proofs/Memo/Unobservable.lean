import MaskedInput.Proofs.Memo.Faithful

/-!
# What is remembered does not show

Users of a shared store get the answers that they would get if every mask were compiled anew each
time: a second account keeps nothing but the specifications as they are set just now, and both
accounts answer every sequence of operations alike. All memories stay faithful on the way, whoever
empties the store and whoever copies a room in between.
-/
namespace MaskedInput.Memo

/-- The specification with one part set anew. -/
def Setting.apply (spec : Spec) : Setting → Spec
  | .pattern t => { spec with pattern := some t }
  | .placeholder c => { spec with placeholder := c }
  | .lead t => { spec with lead := t }
  | .leadFixed fixed => { spec with leadFixed := fixed }
  | .ignorable texts => { spec with ignorable := texts }
  | .strict cuts => { spec with strict := cuts }

/-- What the specification alone answers. -/
def Query.plainAnswer (spec : Spec) : Query → Answer
  | .format t => .ofOutcome t (spec.formatOutcome t)
  | .clear mode t => .ofOutcome t (spec.clearOutcome mode t)
  | .stencil => .stencil spec.stencil
  | .placeholder => .placeholder (spec.stencil.map Stencil.placeholder)
  | .slotCount => .slotCount (spec.stencil.map Stencil.slotCount)

/-- Users that remember nothing: the current specifications, and how many rooms there are. -/
structure Forgetful where
  specs : List Spec := []
  rooms : Nat := 0
  deriving DecidableEq, Repr

namespace Forgetful

def perform (users : Forgetful) : Operation → Answer × Forgetful
  | .newFormatter spec => (.nothing, { users with specs := users.specs ++ [spec] })
  | .copyFormatter user =>
    (.nothing, { users with specs := users.specs ++ users.specs[user]?.toList })
  | .set user setting =>
    (.nothing, { users with specs := users.specs.modify user setting.apply })
  | .ask user query =>
    match users.specs[user]? with
    | some spec => (query.plainAnswer spec, users)
    | none => (.nothing, users)
  | .newRoom => (.nothing, { users with rooms := users.rooms + 1 })
  | .copyRoom room =>
    (.nothing, { users with rooms := if room < users.rooms then users.rooms + 1 else users.rooms })
  | .obtain room mask => (if room < users.rooms then .stencil mask.compile else .nothing, users)
  | .forget _ => (.nothing, users)
  | .obtainShared mask => (.stencil mask.compile, users)

def run (users : Forgetful) : List Operation → List Answer × Forgetful
  | [] => ([], users)
  | operation :: rest =>
    let (answer, users) := users.perform operation
    let (answers, users) := users.run rest
    (answer :: answers, users)

/-- The same users, all of them fresh, on a store. -/
def fresh (users : Forgetful) (store : Store) : Users where
  store := store
  formatters := users.specs.map Formatter.ofSpec
  rooms := List.replicate users.rooms {}

/-- The mask whose stencil an operation may ask for. -/
def mask? (users : Forgetful) : Operation → Option Mask
  | .ask user _ => users.specs[user]?.map Spec.mask
  | .obtain _ mask | .obtainShared mask => some mask
  | .newFormatter _ | .copyFormatter _ | .set _ _ | .newRoom | .copyRoom _ | .forget _ => none

end Forgetful

namespace Users

/-- The users without their memories. -/
def forgetful (users : Users) : Forgetful where
  specs := users.formatters.map Formatter.spec
  rooms := users.rooms.length

/-- The store is faithful, and so is the room of every user. -/
structure Faithful (users : Users) : Prop where
  store : users.store.Faithful
  formatters : ∀ f ∈ users.formatters, f.last.Faithful
  rooms : ∀ last ∈ users.rooms, last.Faithful

end Users

theorem Formatter.set_spec (f : Formatter) (setting : Setting) :
    (f.set setting).spec = setting.apply f.spec := by
  cases setting <;> rfl

theorem Formatter.set_faithful {f : Formatter} (faithful : f.last.Faithful) (setting : Setting) :
    (f.set setting).last.Faithful := by
  cases setting with
  | pattern pattern => exact Last.faithful_empty
  | placeholder placeholder => exact Last.faithful_empty
  | lead lead => exact faithful
  | leadFixed leadFixed => exact faithful
  | ignorable ignorable => exact faithful
  | strict strict => exact faithful

theorem Query.serves {f : Formatter} {store : Store} (faithful : f.last.Faithful)
    (shared : store.Faithful) (query : Query) :
    Serves f store (query.plainAnswer f.spec) (query.answer f store) := by
  cases query with
  | format t => exact (f.serves_format faithful shared t).map (Answer.ofOutcome t)
  | clear mode t => exact (f.serves_clearBy faithful shared mode t).map (Answer.ofOutcome t)
  | stencil => exact (f.serves_stencil faithful shared).map Answer.stencil
  | placeholder => exact (f.serves_placeholder faithful shared).map Answer.placeholder
  | slotCount => exact (f.serves_slotCount faithful shared).map Answer.slotCount

namespace Users

/-- One operation, as users that remember nothing see it. -/
structure Unobserved (users : Users) (operation : Operation) (r : Answer × Users) : Prop where
  answer : r.1 = (users.forgetful.perform operation).1
  forgetful : r.2.forgetful = (users.forgetful.perform operation).2
  faithful : r.2.Faithful
  refused : ∀ mask e, users.forgetful.mask? operation = some mask → mask.compile = .error e →
    r.2 = users

section

variable {users : Users} (faithful : users.Faithful)
include faithful

theorem Faithful.addFormatters {added : List Formatter} (kept : ∀ f ∈ added, f.last.Faithful) :
    Faithful { users with formatters := users.formatters ++ added } where
  store := faithful.store
  formatters := List.forall_mem_append.mpr ⟨faithful.formatters, kept⟩
  rooms := faithful.rooms

theorem Faithful.addRooms {added : List Last} (kept : ∀ last ∈ added, last.Faithful) :
    Faithful { users with rooms := users.rooms ++ added } where
  store := faithful.store
  formatters := faithful.formatters
  rooms := List.forall_mem_append.mpr ⟨faithful.rooms, kept⟩

theorem Faithful.setFormatter (user : Nat) {f : Formatter} {store : Store}
    (own : f.last.Faithful) (shared : store.Faithful) :
    Faithful { users with store, formatters := users.formatters.set user f } where
  store := shared
  formatters := by
    intro g member
    rcases List.mem_or_eq_of_mem_set member with old | rfl
    · exact faithful.formatters g old
    · exact own
  rooms := faithful.rooms

theorem Faithful.setRoom (room : Nat) {last : Last} {store : Store}
    (own : last.Faithful) (shared : store.Faithful) :
    Faithful { users with store, rooms := users.rooms.set room last } where
  store := shared
  formatters := faithful.formatters
  rooms := by
    intro other member
    rcases List.mem_or_eq_of_mem_set member with old | rfl
    · exact faithful.rooms other old
    · exact own

end

theorem Faithful.ask {users : Users} (faithful : users.Faithful) (user : Nat) (query : Query) :
    users.Unobserved (.ask user query) (users.perform (.ask user query)) := by
  simp only [perform]
  cases found : users.formatters[user]? with
  | none =>
    have absent : users.forgetful.specs[user]? = none := by simp [Users.forgetful, found]
    constructor
    · simp only [Forgetful.perform, absent]
    · simp only [Forgetful.perform, absent]
    · exact faithful
    · intro mask e asked
      simp [Forgetful.mask?, absent] at asked
  | some f =>
    obtain ⟨inside, rfl⟩ := List.getElem?_eq_some_iff.mp found
    have present : users.forgetful.specs[user]? = some users.formatters[user].spec := by
      simp [Users.forgetful, found]
    have serves := query.serves (faithful.formatters _ (List.getElem_mem inside)) faithful.store
    constructor
    · simp only [Forgetful.perform, present]
      exact serves.answer
    · simp only [Forgetful.perform, present]
      simp only [Users.forgetful, List.map_set, serves.spec, Forgetful.mk.injEq, and_true]
      rw [← List.getElem_map Formatter.spec (h := by simpa using inside), List.set_getElem_self]
    · exact faithful.setFormatter user serves.faithful serves.shared
    · intro mask e asked wrong
      rw [Forgetful.mask?, present, Option.map_some, Option.some.injEq] at asked
      have unchanged := serves.refused e (asked ▸ wrong)
      simp only [unchanged, List.set_getElem_self]

theorem Faithful.obtain {users : Users} (faithful : users.Faithful) (room : Nat) (mask : Mask) :
    users.Unobserved (.obtain room mask) (users.perform (.obtain room mask)) := by
  simp only [perform]
  cases found : users.rooms[room]? with
  | none =>
    have absent : ¬room < users.forgetful.rooms := Nat.not_lt.mpr (List.getElem?_eq_none_iff.mp found)
    constructor
    · simp only [Forgetful.perform, if_neg absent]
    · rfl
    · exact faithful
    · intro _ _ _ _
      rfl
  | some last =>
    obtain ⟨inside, rfl⟩ := List.getElem?_eq_some_iff.mp found
    have present : room < users.forgetful.rooms := inside
    obtain ⟨answer, own, shared, refused⟩ :=
      (faithful.rooms _ (List.getElem_mem inside)).obtain faithful.store mask
    constructor
    · simp only [Forgetful.perform, if_pos present, answer]
    · simp only [Forgetful.perform, Users.forgetful, List.length_set]
    · exact faithful.setRoom room own shared
    · intro other e asked wrong
      cases asked
      simp only [refused e wrong, List.set_getElem_self]

/-- Operations that ask for no stencil change the users as they look from outside, and keep their
memories faithful. -/
theorem unobserved_of_no_mask {users after : Users} {operation : Operation}
    (asks : users.forgetful.mask? operation = none)
    (answer : (users.forgetful.perform operation).1 = .nothing)
    (forgetful : after.forgetful = (users.forgetful.perform operation).2)
    (faithful : after.Faithful) : users.Unobserved operation (.nothing, after) where
  answer := answer.symm
  forgetful := forgetful
  faithful := faithful
  refused := by
    intro mask e asked
    rw [asks] at asked
    cases asked

theorem Faithful.perform {users : Users} (faithful : users.Faithful) (operation : Operation) :
    users.Unobserved operation (users.perform operation) := by
  cases operation with
  | newFormatter spec =>
    apply unobserved_of_no_mask rfl rfl
    · simp [Users.forgetful, Forgetful.perform, Formatter.ofSpec]
    · exact faithful.addFormatters (List.forall_mem_singleton.mpr Last.faithful_empty)
  | copyFormatter user =>
    apply unobserved_of_no_mask rfl rfl
    · cases found : users.formatters[user]? <;>
        simp [Users.forgetful, Forgetful.perform, found]
    · apply faithful.addFormatters
      intro f copied
      exact faithful.formatters f (List.mem_of_getElem? (Option.mem_toList.mp copied))
  | set user setting =>
    apply unobserved_of_no_mask rfl rfl
    · simp only [Users.forgetful, Forgetful.perform, Forgetful.mk.injEq, and_true]
      apply List.ext_getElem?
      intro other
      by_cases this : user = other
      · cases found : users.formatters[other]? <;>
          simp [this, found, Formatter.set_spec]
      · simp [this]
    · refine ⟨faithful.store, ?_, faithful.rooms⟩
      intro f member
      obtain ⟨other, inside, rfl⟩ := List.getElem_of_mem member
      rw [List.getElem_modify]
      have before := faithful.formatters _ (List.getElem_mem (by simpa using inside))
      split
      · exact Formatter.set_faithful before setting
      · exact before
  | ask user query => exact faithful.ask user query
  | newRoom =>
    apply unobserved_of_no_mask rfl rfl
    · simp [Users.forgetful, Forgetful.perform]
    · exact faithful.addRooms (List.forall_mem_singleton.mpr Last.faithful_empty)
  | copyRoom room =>
    apply unobserved_of_no_mask rfl rfl
    · by_cases inside : room < users.rooms.length
      · simp [Users.forgetful, Forgetful.perform, inside]
      · simp [Users.forgetful, Forgetful.perform, inside]
    · apply faithful.addRooms
      intro last copied
      exact faithful.rooms last (List.mem_of_getElem? (Option.mem_toList.mp copied))
  | obtain room mask => exact faithful.obtain room mask
  | forget room =>
    apply unobserved_of_no_mask rfl rfl
    · simp [Users.forgetful, Forgetful.perform]
    · exact faithful.setRoom room Last.faithful_empty faithful.store
  | obtainShared mask =>
    obtain ⟨answer, kept, refused⟩ := faithful.store.obtain mask
    simp only [Users.perform]
    constructor
    · simp only [Forgetful.perform, answer]
    · rfl
    · exact ⟨kept, faithful.formatters, faithful.rooms⟩
    · intro other e asked wrong
      cases asked
      simp only [refused e wrong]

/-- A whole run, as users that remember nothing see it. -/
theorem Faithful.run {users : Users} (faithful : users.Faithful) (operations : List Operation) :
    (users.run operations).1 = (users.forgetful.run operations).1 ∧
      (users.run operations).2.forgetful = (users.forgetful.run operations).2 ∧
      (users.run operations).2.Faithful := by
  induction operations generalizing users with
  | nil => exact ⟨rfl, rfl, faithful⟩
  | cons operation rest ih =>
    have step := faithful.perform operation
    obtain ⟨answers, left, kept⟩ := ih step.faithful
    rw [step.forgetful] at answers left
    simp only [Users.run, Forgetful.run, answers, step.answer]
    exact ⟨trivial, left, kept⟩

theorem faithful_empty : Faithful {} where
  store := Store.faithful_empty
  formatters := by simp
  rooms := by simp

theorem faithful_fresh (plain : Forgetful) {store : Store} (shared : store.Faithful) :
    (plain.fresh store).Faithful where
  store := shared
  formatters := by
    intro f member
    obtain ⟨spec, -, rfl⟩ := List.mem_map.mp member
    exact Last.faithful_empty
  rooms := by
    intro last member
    rw [List.eq_of_mem_replicate member]
    exact Last.faithful_empty

theorem forgetful_fresh (plain : Forgetful) (store : Store) :
    (plain.fresh store).forgetful = plain := by
  simp [Users.forgetful, Forgetful.fresh, Formatter.ofSpec, Function.comp_def]

/-- The stencils used last, each in its room. -/
def lasts (users : Users) : List Last := users.rooms ++ users.formatters.map Formatter.last

theorem Faithful.lasts {users : Users} (faithful : users.Faithful) :
    ∀ last ∈ users.lasts, last.Faithful := by
  intro last member
  rcases List.mem_append.mp member with free | owned
  · exact faithful.rooms last free
  · obtain ⟨f, inside, rfl⟩ := List.mem_map.mp owned
    exact faithful.formatters f inside

/-- After any operations of any users: all of them were answered, and the next will be, as if every
mask were compiled anew, and as fresh users with the current specifications on the same store are
answered. What the store and the rooms hold is compiled from its own mask, the store holds at most
256 stencils, and a mask that does not compile is remembered nowhere and leaves everything as it
was. -/
theorem caching_unobservable (operations : List Operation) :
    let users := (Users.run {} operations).2
    let plain := (Forgetful.run {} operations).2
    (Users.run {} operations).1 = (Forgetful.run {} operations).1 ∧
    users.formatters.map Formatter.spec = plain.specs ∧
    (∀ operation, (users.perform operation).1 = (plain.perform operation).1 ∧
      (users.perform operation).1 = ((plain.fresh users.store).perform operation).1) ∧
    (∀ mask st, (mask, st) ∈ users.store.entries → mask.compile = .ok st) ∧
    (users.store.entries.map Prod.fst).Nodup ∧ users.store.entries.length ≤ 256 ∧
    (∀ last ∈ users.lasts, ∀ st, last.stencil = some st → st.mask.compile = .ok st) ∧
    ∀ mask e, mask.compile = .error e →
      mask ∉ users.store.entries.map Prod.fst ∧
      (∀ last ∈ users.lasts, ∀ st, last.stencil = some st → st.mask ≠ mask) ∧
      ∀ operation, plain.mask? operation = some mask → (users.perform operation).2 = users := by
  intro users plain
  obtain ⟨answers, forgetful, faithful⟩ := faithful_empty.run operations
  change users.forgetful = plain at forgetful
  change users.Faithful at faithful
  have compiled (last : Last) (member : last ∈ users.lasts) (st : Stencil)
      (held : last.stencil = some st) : st.mask.compile = .ok st :=
    faithful.lasts last member st held
  refine ⟨answers, congrArg Forgetful.specs forgetful, ?_, faithful.store.compiled,
    faithful.store.distinct, faithful.store.bounded, compiled, ?_⟩
  · intro operation
    have here := (faithful.perform operation).answer
    have anew := ((faithful_fresh plain faithful.store).perform operation).answer
    rw [forgetful] at here
    rw [forgetful_fresh] at anew
    exact ⟨here, here.trans anew.symm⟩
  · intro mask e wrong
    refine ⟨?_, ?_, ?_⟩
    · intro stored
      obtain ⟨⟨other, st⟩, member, rfl⟩ := List.mem_map.mp stored
      have right := faithful.store.compiled other st member
      rw [wrong] at right
      cases right
    · intro last member st held same
      have right := compiled last member st held
      rw [same, wrong] at right
      cases right
    · intro operation asked
      rw [← forgetful] at asked
      exact (faithful.perform operation).refused mask e asked wrong

/-- A pattern of 501 characters is refused, and a room keeps what it had. -/
theorem overlong_pattern_forgotten :
    let mask : Mask := { pattern := ['#', '#', '-', '#'], placeholder := some '-' }
    let overlong : Mask := { pattern := List.replicate 501 '#', placeholder := none }
    let operations := [.newFormatter (Spec.ofPattern ['#', '#', '-', '#']), .ask 0 .stencil,
      .set 0 (.placeholder (some '-')), .newRoom, .obtain 0 mask]
    let users := (Users.run {} operations).2
    users.rooms = [{ stencil := some { mask, placeholder := '-', slotCount := 1 } }] ∧
    users.store.entries.length = 2 ∧
    overlong.compile = .error (.patternTooLong 501 500) ∧
    (users.perform (.obtain 0 overlong)).2 = users := by
  intro mask overlong operations users
  have refused : overlong.compile = .error (.patternTooLong 501 500) := by
    have length : overlong.pattern.length = 501 := List.length_replicate
    rw [Mask.compile, length, if_pos (by decide)]
    rfl
  obtain ⟨-, -, -, -, -, -, -, forgotten⟩ := caching_unobservable operations
  exact ⟨rfl, rfl, refused, (forgotten overlong _ refused).2.2 (.obtain 0 overlong) rfl⟩

end Users
end MaskedInput.Memo
