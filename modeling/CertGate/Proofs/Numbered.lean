import CertGate.Proofs.Presented
import CertGate.Text.Digits
import Mathlib.Data.List.Nodup
import Mathlib.Data.List.Perm.Subperm
import Mathlib.Order.Nat

/-!
# The numbered variables of a chain

The records behind the first one come from variables with a number in their names, up to the first number
that is not given.

* `chainVariable_injective` : each number has a name of its own;
* `EndsAfter`, `exists_endsAfter` : there is a first number that is not given, for there are only so many
  variables (`EndsAfter.count_le`);
* `exists_values`, `numbered_of_endsAfter` : the variables before it are gathered in their order, for which the fuel
  of `numbered` lasts;
* `numbered_eq_of_same` : nothing but the numbered variables counts.
-/

namespace CertGate.Request
variable {vars vars' : List (String × Value)} {n count fuel : Nat}

theorem chainVariable_injective : Function.Injective chainVariable := by
  intro m n same
  have digits : Text.decimalText m = Text.decimalText n := (String.append_right_inj _).1 same
  have read (k : Nat) : Text.ofDigits? 10 (Text.decimalText k).toList = some k := by
    rw [Text.decimalText, String.toList_ofList]
    exact Text.ofDigits?_toDigits (by decide) (by decide) k
  have same_number : some m = some n := by rw [← read m, digits, read n]
  exact Option.some.inj same_number

/-- From `n` on `count` numbered variables are given, and the one behind them is not. -/
structure EndsAfter (vars : List (String × Value)) (n count : Nat) : Prop where
  given : ∀ k < count, (given? vars (chainVariable (n + k))).isSome = true
  missing : given? vars (chainVariable (n + count)) = none

theorem mem_of_given {name : String} (given : (given? vars name).isSome = true) :
    name ∈ vars.map Prod.fst := by
  obtain ⟨v, found⟩ := Option.isSome_iff_exists.1 given
  obtain ⟨found, -⟩ := Option.filter_eq_some_iff.1 found
  obtain ⟨e, mem, named⟩ := List.lookup_isSome_iff.1 (Option.isSome_of_mem found)
  rw [beq_iff_eq.1 named]
  exact List.mem_map_of_mem mem

/-- As many variables as are given in a row are there. -/
theorem length_of_given (given : ∀ k < count, (given? vars (chainVariable (n + k))).isSome = true) :
    count ≤ vars.length := by
  have distinct : ((List.range count).map fun k => chainVariable (n + k)).Nodup :=
    List.Nodup.map (fun _ _ same => Nat.add_left_cancel (chainVariable_injective same))
      List.nodup_range
  have there : (List.range count).map (fun k => chainVariable (n + k)) ⊆ vars.map Prod.fst := by
    intro name mem
    obtain ⟨k, less, rfl⟩ := List.mem_map.1 mem
    exact mem_of_given (given k (List.mem_range.1 less))
  simpa using (List.subperm_of_subset distinct there).length_le

theorem EndsAfter.count_le (ends : EndsAfter vars n count) : count ≤ vars.length :=
  length_of_given ends.given

/-- There is one first gap. -/
theorem EndsAfter.unique {count' : Nat} (ends : EndsAfter vars n count) (ends' : EndsAfter vars n count') :
    count = count' := by
  rcases Nat.lt_trichotomy count count' with less | same | less
  · have given := ends'.given count less
    rw [ends.missing] at given
    cases given
  · exact same
  · have given := ends.given count' less
    rw [ends'.missing] at given
    cases given

theorem exists_endsAfter (vars : List (String × Value)) (n : Nat) :
    ∃ count, EndsAfter vars n count := by
  have some_missing : ∃ k, given? vars (chainVariable (n + k)) = none := by
    by_contra all_given
    have too_many : vars.length + 1 ≤ vars.length :=
      length_of_given fun k _ => Option.isSome_iff_ne_none.2 fun missing => all_given ⟨k, missing⟩
    omega
  exact ⟨Nat.find some_missing,
    fun k less => Option.isSome_iff_ne_none.2 (Nat.find_min some_missing less),
    Nat.find_spec some_missing⟩

/-- What is gathered are the values of the variables in a row, in their order, and no fuel beyond them changes
that. -/
theorem exists_values (ends : EndsAfter vars n count) : ∃ values : List Value, values.length = count ∧
    (∀ k < count, values[k]? = given? vars (chainVariable (n + k))) ∧
      ∀ fuel, count ≤ fuel → numbered vars fuel n = values.map recordOf := by
  induction count generalizing n with
  | zero =>
    have missing : given? vars (chainVariable n) = none := ends.missing
    refine ⟨[], rfl, nofun, fun fuel _ => ?_⟩
    cases fuel with
    | zero => rfl
    | succ fuel => simp only [numbered, missing, List.map_nil]
  | succ count ih =>
    obtain ⟨v, found⟩ := Option.isSome_iff_exists.1 (ends.given 0 (by omega))
    have rest : EndsAfter vars (n + 1) count := by
      constructor
      · intro k less
        rw [Nat.add_right_comm]
        exact ends.given (k + 1) (by omega)
      · rw [Nat.add_right_comm]
        exact ends.missing
    obtain ⟨values, length, each, gathered⟩ := ih rest
    refine ⟨v :: values, congrArg Nat.succ length, ?_, fun fuel enough => ?_⟩
    · rintro (_ | k) less
      · exact found.symm
      · rw [List.getElem?_cons_succ, each k (by omega), Nat.add_right_comm, Nat.add_assoc]
    · obtain ⟨fuel, rfl⟩ := Nat.exists_eq_add_of_le' (Nat.le_of_add_left_le enough : 1 ≤ fuel)
      rw [Nat.add_zero] at found
      simp only [numbered, found]
      rw [gathered fuel (by omega), List.map_cons]

/-- More fuel than there are variables in a row makes no difference. -/
theorem numbered_of_endsAfter (ends : EndsAfter vars n count) (enough : count ≤ fuel) :
    numbered vars fuel n = numbered vars count n := by
  obtain ⟨values, -, -, gathered⟩ := exists_values ends
  rw [gathered fuel enough, gathered count (Nat.le_refl count)]

/-- Variables that say the same up to the first one that is not given end there too. -/
theorem EndsAfter.of_given (ends : EndsAfter vars n count)
    (same : ∀ k ≤ count, given? vars' (chainVariable (n + k)) = given? vars (chainVariable (n + k))) :
    EndsAfter vars' n count where
  given k less := by
    rw [same k (Nat.le_of_lt less)]
    exact ends.given k less
  missing := by
    rw [same count (Nat.le_refl count)]
    exact ends.missing

section Same
variable (same : ∀ k, vars.lookup (chainVariable k) = vars'.lookup (chainVariable k))
include same

theorem given?_of_same (k : Nat) :
    given? vars (chainVariable k) = given? vars' (chainVariable k) := by
  unfold given?
  rw [same k]

theorem numbered_of_same (fuel n : Nat) : numbered vars fuel n = numbered vars' fuel n := by
  induction fuel generalizing n with
  | zero => rfl
  | succ fuel ih =>
    rw [numbered, numbered, given?_of_same same, ih]

/-- Variables that agree on the numbered ones hold the same records behind the first one, however
many other variables there are. -/
theorem numbered_eq_of_same : numbered vars vars.length 0 = numbered vars' vars'.length 0 := by
  obtain ⟨count, ends⟩ := exists_endsAfter vars 0
  have ends' : EndsAfter vars' 0 count := ends.of_given fun k _ => (given?_of_same same _).symm
  rw [numbered_of_endsAfter ends ends.count_le, numbered_of_endsAfter ends' ends'.count_le,
    numbered_of_same same]

end Same
end CertGate.Request
