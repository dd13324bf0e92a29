import CertGate.Proofs.LeafOnly
import Mathlib.Data.List.Dedup

/-!
# Exact chains

The chain in the variables of a server is gathered one variable at a time, with nothing to say how many there are.
The gathering ends all the same, for every pass takes up another variable, and it ends at the first number that is
not given.

* `chainVariable_ne_of_zeros`, `leafVariable_ne_of_zeros` : a number with zeros in front names no variable of the
  chain;
* `EndsAfter.lt_names` : all that is taken up has a name of its own, the certificate of the client included;
* `Gathering`, `Gathering.Pass`, `Gathering.Runs` : the state of the gathering, one pass, and passes in a row;
* `Gathering.runs_iff` : where the passes lead, from what one pass does (`Gathering.pass_iff`);
* `chain?_exact` : the chain is what they lead to.
-/

namespace CertGate

/-! ## Names -/

/-- A number that is not zero does not begin with a zero. -/
theorem head?_toDigits_ne {n : Nat} (pos : 0 < n) : (Nat.toDigits 10 n).head? ≠ some '0' := by
  induction n using Nat.strongRecOn with
  | ind n ih =>
    rw [Nat.toDigits_eq_if (by decide)]
    split
    · next less =>
      have digit : ∀ m < 10, 0 < m → [m.digitChar].head? ≠ some '0' := by decide
      exact digit n less pos
    · have front := ih (n / 10) (by omega) (by omega)
      obtain ⟨c, cs, digits⟩ := List.exists_cons_of_ne_nil (Nat.toDigits_ne_nil (b := 10) (n := n / 10))
      rw [digits] at front ⊢
      exact front

theorem chainVariable_ne_of_zeros (n : Nat) {digits : String} (more : digits ≠ "") :
    chainVariable n ≠ chainVariable 0 ++ digits := by
  intro same
  unfold chainVariable at same
  rw [String.append_assoc, String.append_right_inj] at same
  have list : Nat.toDigits 10 n = '0' :: digits.toList := by
    have both := congrArg String.toList same
    rwa [String.toList_append, Text.decimalText, Text.decimalText, String.toList_ofList, String.toList_ofList] at both
  rcases Nat.eq_zero_or_pos n with rfl | pos
  · have rest : [] = digits.toList := (List.cons.inj list).2
    exact more (String.toList_eq_nil_iff.1 rest.symm)
  · exact head?_toDigits_ne pos (by rw [list]; rfl)

theorem leafVariable_ne_of_zeros (digits : String) : leafVariable ≠ chainVariable 0 ++ digits := by
  intro same
  have lengths := congrArg String.length same
  have short : leafVariable.length = 15 := by decide
  have long : (chainVariable 0).length = 23 := by decide
  rw [String.length_append, short, long] at lengths
  omega

namespace Request
variable {vars : List (String × Value)} {leaf : Value} {count : Nat}

/-- The certificate of the client and those behind it have different names. -/
theorem EndsAfter.lt_names (ends : EndsAfter vars 0 count) (served : given? vars leafVariable = some leaf) :
    count < (vars.map Prod.fst).dedup.length := by
  have distinct : (leafVariable :: (List.range count).map chainVariable).Nodup := by
    refine List.nodup_cons.2 ⟨?_, List.Nodup.map chainVariable_injective List.nodup_range⟩
    intro mem
    obtain ⟨k, -, same⟩ := List.mem_map.1 mem
    exact leafVariable_ne_chainVariable k same.symm
  have there : leafVariable :: (List.range count).map chainVariable ⊆ (vars.map Prod.fst).dedup := by
    intro name mem
    rw [List.mem_dedup]
    rcases List.mem_cons.1 mem with rfl | mem
    · exact mem_of_given (Option.isSome_of_mem served)
    · obtain ⟨k, less, rfl⟩ := List.mem_map.1 mem
      have given := ends.given k (List.mem_range.1 less)
      rw [Nat.zero_add] at given
      exact mem_of_given given
  have fit := (List.subperm_of_subset distinct there).length_le
  rwa [List.length_cons, List.length_map, List.length_range] at fit

end Request

/-! ## Passes -/

open Request

/-- The chain so far, and the number of the variable to look at next. -/
structure Gathering where
  next : Nat
  chain : List Record

namespace Gathering
variable {vars : List (String × Value)} {leaf : Value} {values : List Value} {n count : Nat} {s s' : Gathering}

/-- One pass. A variable that is given goes to the end of the chain. -/
inductive Pass (vars : List (String × Value)) (s : Gathering) : Gathering → Prop
  | take {v : Value} (given : given? vars (chainVariable s.next) = some v) :
    Pass vars s ⟨s.next + 1, s.chain ++ [recordOf v]⟩

/-- Passes in a row. -/
inductive Runs (vars : List (String × Value)) (start : Gathering) : Nat → Gathering → Prop
  | start : Runs vars start 0 start
  | pass {n : Nat} {s s' : Gathering} (before : Runs vars start n s) (last : Pass vars s s') :
    Runs vars start (n + 1) s'

/-- No pass is left. -/
def Done (vars : List (String × Value)) (s : Gathering) : Prop := ∀ s', ¬ Pass vars s s'

/-- The state after `n` passes over some values. -/
def reached (leaf : Value) (values : List Value) (n : Nat) : Gathering :=
  ⟨n, recordOf leaf :: (values.take n).map recordOf⟩

section Reached
variable (ends : EndsAfter vars 0 count) (length : values.length = count)
  (each : ∀ k < count, values[k]? = given? vars (chainVariable (0 + k)))
include ends length each

/-- A pass goes on to the next value, and there is one as long as there are values. -/
theorem pass_iff (le : n ≤ count) :
    Pass vars (reached leaf values n) s ↔ n < count ∧ s = reached leaf values (n + 1) := by
  have onward : ∀ v, values[n]? = some v →
      (⟨n + 1, (reached leaf values n).chain ++ [recordOf v]⟩ : Gathering) = reached leaf values (n + 1) := by
    intro v at_n
    unfold reached
    rw [List.take_add_one, at_n, List.map_append]
    rfl
  rcases Nat.lt_or_eq_of_le le with less | rfl
  · have at_n := each n less
    rw [Nat.zero_add] at at_n
    constructor
    · rintro ⟨given⟩
      exact ⟨less, onward _ (at_n.trans given)⟩
    · rintro ⟨-, rfl⟩
      obtain ⟨v, found⟩ := Option.isSome_iff_exists.1 (ends.given n less)
      rw [Nat.zero_add] at found
      rw [← onward v (at_n.trans found)]
      exact .take found
  · have missing := ends.missing
    rw [Nat.zero_add] at missing
    constructor
    · rintro ⟨given⟩
      cases missing.symm.trans given
    · rintro ⟨less, -⟩
      exact absurd less (Nat.lt_irrefl _)

theorem runs_iff : Runs vars ⟨0, [recordOf leaf]⟩ n s ↔ n ≤ count ∧ s = reached leaf values n := by
  constructor
  · intro runs
    induction runs with
    | start => exact ⟨Nat.zero_le _, rfl⟩
    | pass _ last ih =>
      obtain ⟨le, rfl⟩ := ih
      exact (pass_iff ends length each le).1 last
  · rintro ⟨le, rfl⟩
    induction n with
    | zero => exact .start
    | succ n ih => exact .pass (ih (by omega)) ((pass_iff ends length each (by omega)).2 ⟨le, rfl⟩)

theorem done_reached_iff (le : n ≤ count) : Done vars (reached leaf values n) ↔ n = count := by
  constructor
  · intro done
    by_contra ne
    exact done _ ((pass_iff ends length each le).2 ⟨by omega, rfl⟩)
  · rintro rfl s pass
    exact Nat.lt_irrefl _ ((pass_iff ends length each le).1 pass).1

end Reached
end Gathering

/-! ## Chains -/

section Chains
variable {r r' : Request} {leaf : Value} {values : List Value} (unattached : r.attached = .value .null)
  (served : given? r.vars leafVariable = some leaf) (ends : EndsAfter r.vars 0 values.length)
  (each : ∀ k < values.length, values[k]? = given? r.vars (chainVariable k))
include unattached served ends each

theorem chain?_of_values (header : Value) : r.chain? header = .ok (some (recordOf leaf :: values.map recordOf)) := by
  obtain ⟨others, length, each', gathered⟩ := exists_values ends
  have same : others = values := by
    refine List.ext_getElem? fun k => ?_
    by_cases less : k < values.length
    · rw [each' k less, each k less, Nat.zero_add]
    · rw [List.getElem?_eq_none (by omega), List.getElem?_eq_none (by omega)]
  rw [chain?_of_unattached unattached, presented_of_served served, gathered _ ends.count_le, same]

/-- No other variable counts. -/
theorem chain?_eq_of_same (unattached' : r'.attached = .value .null)
    (same_leaf : r'.vars.lookup leafVariable = r.vars.lookup leafVariable)
    (same : ∀ k ≤ values.length, r'.vars.lookup (chainVariable k) = r.vars.lookup (chainVariable k))
    (header : Value) : r'.chain? header = r.chain? header := by
  have given : ∀ k ≤ values.length, given? r'.vars (chainVariable k) = given? r.vars (chainVariable k) := by
    intro k le
    unfold given?
    rw [same k le]
  have served' : given? r'.vars leafVariable = some leaf := by
    unfold given? at served ⊢
    rwa [same_leaf]
  have ends' : EndsAfter r'.vars 0 values.length := by
    refine ends.of_given fun k le => ?_
    rw [Nat.zero_add, given k le]
  have each' : ∀ k < values.length, values[k]? = given? r'.vars (chainVariable k) := fun k less => by
    rw [given k (by omega), each k less]
  rw [chain?_of_values unattached served ends each header, chain?_of_values unattached' served' ends' each' header]

end Chains

/-- The chain in the variables of a server is the certificate of the client and the values of the numbered variables
up to the first that is not given, each once and in their order. The gathering ends there and nowhere else, after
fewer passes than there are variables of different names. A request that has the same under these names has the same
chain, whatever else it has, numbers with zeros in front among it. -/
theorem chain?_exact {r : Request} {leaf : Value} (unattached : r.attached = .value .null)
    (served : given? r.vars leafVariable = some leaf) (header : Value) :
    ∃ values : List Value, EndsAfter r.vars 0 values.length ∧
      (∀ k < values.length, values[k]? = given? r.vars (chainVariable k)) ∧
      r.chain? header = .ok (some (recordOf leaf :: values.map recordOf)) ∧
      values.length < (r.vars.map Prod.fst).dedup.length ∧
      (∀ n s, Gathering.Runs r.vars ⟨0, [recordOf leaf]⟩ n s → n ≤ values.length) ∧
      (∀ n s, Gathering.Runs r.vars ⟨0, [recordOf leaf]⟩ n s ∧ s.Done r.vars ↔
        n = values.length ∧ s = ⟨values.length, recordOf leaf :: values.map recordOf⟩) ∧
      (∀ r' : Request, r'.attached = .value .null → r'.vars.lookup leafVariable = r.vars.lookup leafVariable →
        (∀ k ≤ values.length, r'.vars.lookup (chainVariable k) = r.vars.lookup (chainVariable k)) →
          r'.chain? header = r.chain? header) ∧
      ∀ (digits : String) (v : Value), digits ≠ "" →
        { r with vars := (chainVariable 0 ++ digits, v) :: r.vars }.chain? header = r.chain? header := by
  obtain ⟨count, ends⟩ := exists_endsAfter r.vars 0
  obtain ⟨values, rfl, each, -⟩ := exists_values ends
  have plain : ∀ k < values.length, values[k]? = given? r.vars (chainVariable k) := fun k less => by
    rw [each k less, Nat.zero_add]
  have last : Gathering.reached leaf values values.length = ⟨values.length, recordOf leaf :: values.map recordOf⟩ := by
    rw [Gathering.reached, List.take_length]
  refine ⟨values, ends, plain, chain?_of_values unattached served ends plain header, ends.lt_names served, ?_, ?_, ?_,
    ?_⟩
  · intro n s runs
    exact ((Gathering.runs_iff ends rfl each).1 runs).1
  · intro n s
    rw [Gathering.runs_iff ends rfl each, ← last]
    constructor
    · rintro ⟨⟨le, rfl⟩, done⟩
      obtain rfl := (Gathering.done_reached_iff ends rfl each le).1 done
      exact ⟨rfl, rfl⟩
    · rintro ⟨rfl, rfl⟩
      exact ⟨⟨Nat.le_refl _, rfl⟩, (Gathering.done_reached_iff ends rfl each (Nat.le_refl _)).2 rfl⟩
  · intro r' unattached' same_leaf same
    exact chain?_eq_of_same unattached served ends plain unattached' same_leaf same header
  · intro digits v more
    refine chain?_eq_of_same unattached served ends plain ?_ ?_ ?_ header
    · exact unattached
    · show List.lookup _ (_ :: r.vars) = _
      rw [List.lookup_cons, beq_false_of_ne (leafVariable_ne_of_zeros digits)]
    · intro k _
      show List.lookup _ (_ :: r.vars) = _
      rw [List.lookup_cons, beq_false_of_ne (chainVariable_ne_of_zeros k more)]

/-- Eleven certificates behind the one of the client, in a list and in numbers, and among the other variables a number
with a zero in front and a number beyond the gap. -/
def longRequest : Request where
  verb := "GET"
  path := "/"
  pathInfo := "/"
  vars := ("SSL_CLIENT_CERT_CHAIN_12", .text "beyond") :: ("SSL_CLIENT_CERT_CHAIN_11", .text "") ::
    ("SSL_CLIENT_CERT", .text "leaf") :: ("SSL_CLIENT_CERT_CHAIN_10", .list [.null]) ::
    (List.range 10).map fun k => (chainVariable k, .int (k + 1))
  attached := .value .null

theorem chain?_longRequest :
    longRequest.attached = .value .null ∧ given? longRequest.vars leafVariable = some (.text "leaf") ∧
      EndsAfter longRequest.vars 0 11 ∧ ∃ values : List Value, values.length = 11 ∧
        longRequest.chain? .null = .ok (some (recordOf (.text "leaf") :: values.map recordOf)) ∧
        { longRequest with vars := longRequest.vars.tail }.chain? .null = longRequest.chain? .null ∧
        { longRequest with vars := ("SSL_CLIENT_CERT_CHAIN_00", .text "zeros") :: longRequest.vars }.chain? .null =
          longRequest.chain? .null := by
  have served : given? longRequest.vars leafVariable = some (.text "leaf") := rfl
  have eleven : EndsAfter longRequest.vars 0 11 := ⟨by decide, rfl⟩
  obtain ⟨values, ends, -, chain, -, -, -, alone, zeros⟩ := chain?_exact (r := longRequest) rfl served .null
  have length : values.length = 11 := ends.unique eleven
  refine ⟨rfl, served, eleven, values, length, chain, alone _ rfl rfl fun k le => ?_, zeros "0" _ (by decide)⟩
  have beyond : chainVariable k ≠ "SSL_CLIENT_CERT_CHAIN_12" := by
    intro same
    have twelve : k = 12 := chainVariable_injective same
    omega
  show List.lookup _ longRequest.vars.tail = List.lookup _ (_ :: longRequest.vars.tail)
  rw [List.lookup_cons, beq_false_of_ne beyond]

end CertGate
