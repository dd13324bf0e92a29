import CertGate.Proofs.Headers

/-!
# Only the first record counts

A chain is judged by its first record. What stands behind that one is taken out of a request and kept in the
chain, but never read, so whoever can write into the numbered variables of a request cannot change its answer.

* `Chain.Begins` : the first record of a chain;
* `accepts_of_leaf`, `verdict_of_leaf` : all that a verdict has of a chain is its first record;
* `Request.Beside` : requests that differ in their numbered variables at most. Both have a chain or neither has,
  and the chains begin alike (`presented_of_beside`);
* `decided_by_leaf` : chains that begin alike get one verdict and leave one trail, and so do such requests.
-/

namespace CertGate

/-! ## Chains that begin alike -/

/-- A chain begins with a record. A list or a tuple of any values begins with its first item. -/
inductive Chain.Begins : Record → Chain → Prop
  | records (leaf : Record) (rest : List Record) : Begins leaf (.records (leaf :: rest))
  | list (v : Value) (rest : List Value) : Begins (.plain v) (.value (.list (v :: rest)))
  | tuple (v : Value) (rest : List Value) : Begins (.plain v) (.value (.tuple (v :: rest)))

theorem Chain.Begins.leaf_eq {leaf : Record} {chain : Chain} (begins : chain.Begins leaf) :
    chain.leaf = .ok (some leaf) := by
  cases begins <;> rfl

section Leaf
variable {c : Config} {chain chain' : Chain} (same : chain.leaf = chain'.leaf)
include same

theorem accepts_of_leaf (now : Timestamp) : accepts c chain now = accepts c chain' now := by
  unfold accepts
  rw [same]

theorem verdict_of_leaf (path : Value) (now : Timestamp) :
    verdict c path chain now = verdict c path chain' now := by
  unfold verdict
  rw [accepts_of_leaf same]

theorem evaluate_of_leaf (g : Gate) (path : Value) (now : Timestamp) :
    g.evaluate path chain now = g.evaluate path chain' now := by
  unfold Gate.evaluate
  split
  · rw [verdict_of_leaf same]
  · rfl
  · rfl

end Leaf

/-! ## Requests that differ behind the first record -/

theorem leafVariable_ne_chainVariable (n : Nat) : leafVariable ≠ chainVariable n := by
  have longer : chainVariable n = leafVariable ++ ("_CHAIN_" ++ Text.decimalText n) := by
    rw [← String.append_assoc]
    rfl
  intro same
  have lengths := congrArg String.length (same.trans longer)
  rw [String.length_append, String.length_append] at lengths
  have front : "_CHAIN_".length = 7 := by decide
  rw [front] at lengths
  exact absurd lengths (Nat.ne_of_lt (Nat.lt_add_of_pos_right (by omega)))

namespace Request

/-- Two requests without anything attached that differ, if at all, in their numbered variables. -/
structure Beside (r r' : Request) : Prop where
  verb : r.verb = r'.verb
  path : r.path = r'.path
  unattached : r.attached = .value .null
  unattached' : r'.attached = .value .null
  vars : ∀ name, (∀ n, name ≠ chainVariable n) → r.vars.lookup name = r'.vars.lookup name

variable {r r' : Request} {header : Value}

theorem get?_of_beside (beside : r.Beside r') (other : ∀ n, header ≠ .text (chainVariable n)) :
    Value.get? header r.vars = Value.get? header r'.vars := by
  unfold Value.get?
  split
  · rfl
  · rfl
  · have unnumbered : ∀ n, _ ≠ chainVariable n := fun n same => other n (congrArg Value.text same)
    rw [beside.vars _ unnumbered]
  · rfl

theorem forwarded_of_beside (beside : r.Beside r') (other : ∀ n, header ≠ .text (chainVariable n)) :
    forwarded r.vars header = forwarded r'.vars header := by
  unfold forwarded
  rw [get?_of_beside beside other]

/-- Such requests present the same, or two chains that begin with the same record. -/
theorem presented_of_beside (beside : r.Beside r') (other : ∀ n, header ≠ .text (chainVariable n)) :
    presented r.vars header = presented r'.vars header ∨
      ∃ leaf rest rest', presented r.vars header = .ok (some (leaf :: rest)) ∧
        presented r'.vars header = .ok (some (leaf :: rest')) := by
  have leaf : given? r.vars leafVariable = given? r'.vars leafVariable := by
    unfold given?
    rw [beside.vars leafVariable leafVariable_ne_chainVariable]
  cases served : given? r.vars leafVariable with
  | some v =>
    have served' : given? r'.vars leafVariable = some v := leaf ▸ served
    exact .inr ⟨_, _, _, presented_of_served served header, presented_of_served served' header⟩
  | none =>
    left
    rw [presented_of_bare served, presented_of_bare (leaf ▸ served)]
    exact forwarded_of_beside beside other

end Request

theorem check_of_beside {g : Guard} {r r' : Request} (other : ∀ n, g.header ≠ .text (chainVariable n))
    (beside : r.Beside r') (now : Timestamp) : g.check now r = g.check now r' := by
  unfold Guard.check
  rw [Request.chain?_of_unattached beside.unattached, Request.chain?_of_unattached beside.unattached',
    beside.path, beside.verb]
  rcases Request.presented_of_beside beside other with same | ⟨leaf, rest, rest', chain, chain'⟩
  · rw [same]
  · rw [chain, chain']
    have begins : (Chain.ofRecords? (some (leaf :: rest))).leaf =
        (Chain.ofRecords? (some (leaf :: rest'))).leaf := rfl
    rw [Logged.liftM_ok_bind, Logged.liftM_ok_bind, evaluate_of_leaf begins]

/-- Two chains that begin with the same record get the same verdict, or make the gate fail in the same way, and
leave the same trail. So do two requests that differ in their numbered variables, unless one of these is
configured to be the header of a proxy. -/
theorem decided_by_leaf :
    (∀ (c : Config) (path : Value) (leaf : Record) (chain chain' : Chain) (now : Timestamp),
      chain.Begins leaf → chain'.Begins leaf →
        (Gate.ready c).evaluate path chain now = (Gate.ready c).evaluate path chain' now) ∧
      ∀ g : Guard, (∀ n, g.header ≠ .text (chainVariable n)) →
        ∀ r r' : Request, r.Beside r' → ∀ now, g.check now r = g.check now r' := by
  constructor
  · intro c path leaf chain chain' now begins begins'
    apply evaluate_of_leaf
    rw [begins.leaf_eq, begins'.leaf_eq]
  · intro g other r r' beside now
    exact check_of_beside other beside now

/-- The sample request with numbers and garbage in its numbered variables, and a gap between them. -/
def trailedRequest : Request :=
  { sampleRequest with
    vars := [("SSL_CLIENT_CERT_CHAIN_0", .text "garbage"), ("SSL_CLIENT_CERT_CHAIN_1", .int 7),
      ("SSL_CLIENT_CERT_CHAIN_3", .list [])] ++ sampleRequest.vars }

theorem beside_trailedRequest : sampleRequest.Beside trailedRequest where
  verb := rfl
  path := rfl
  unattached := rfl
  unattached' := rfl
  vars name other := by
    have zero : name ≠ "SSL_CLIENT_CERT_CHAIN_0" := other 0
    have one : name ≠ "SSL_CLIENT_CERT_CHAIN_1" := other 1
    have three : name ≠ "SSL_CLIENT_CERT_CHAIN_3" := other 3
    show _ = List.lookup name (_ :: _ :: _ :: sampleRequest.vars)
    rw [List.lookup_cons, beq_false_of_ne zero, List.lookup_cons, beq_false_of_ne one, List.lookup_cons,
      beq_false_of_ne three]

theorem check_trailedRequest :
    (∀ n, sampleGuard.header ≠ .text (chainVariable n)) ∧ sampleRequest.Beside trailedRequest ∧
      (∃ leaf second third, sampleRequest.chain? sampleGuard.header = .ok (some [leaf]) ∧
        trailedRequest.chain? sampleGuard.header = .ok (some [leaf, second, third])) ∧
      (∀ now, sampleGuard.check now sampleRequest = sampleGuard.check now trailedRequest) ∧
      ∀ now, (Gate.ready (.enforcing .null none)).evaluate (.text "/") (.value (.list [.int 1])) now =
        (Gate.ready (.enforcing .null none)).evaluate (.text "/") (.value (.tuple [.int 1, .null])) now := by
  have other : ∀ n, sampleGuard.header ≠ .text (chainVariable n) := fun n same =>
    not_isHeader_chainVariable n ⟨"X_CERT", (Value.text.inj same).symm⟩
  refine ⟨other, beside_trailedRequest, ⟨_, _, _, rfl, rfl⟩, ?_, fun now => ?_⟩
  · exact decided_by_leaf.2 sampleGuard other _ _ beside_trailedRequest
  · exact decided_by_leaf.1 _ _ _ _ _ now (.list (.int 1) []) (.tuple (.int 1) [.null])

end CertGate
