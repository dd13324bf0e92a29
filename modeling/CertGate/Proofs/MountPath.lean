import CertGate.Proofs.Presented
import CertGate.Proofs.Verdict
import Mathlib.Data.List.DropRight

/-!
# Scope below a mount path

The path of a request is made of the mount path without its trailing slashes and the path below it,
while an enforced path is put behind the mount path as it is written. So the two are compared with
the trailing slashes of the mount path on one side only.

* `trailingSlashes`, `beginsEnforced_iff` : what the comparison amounts to below the mount path;
* `Request.IsUnder`, `isUnder_of_receive` : the requests that a mount path is in front of;
* `build_of_unmounted` : the guard of settings without a context path of their own;
* `scope_agrees_iff` : the scope is what the path options say, for every request under the mount
  path, exactly if the mount path does not end with a slash or no path is given.
-/

namespace CertGate

/-- The slashes at the end of a mount path. -/
def trailingSlashes (mount : String) : String :=
  String.ofList (mount.toList.rtakeWhile (· == '/'))

/-- A mount path without the slashes at its end. -/
def mountFront (mount : String) : String :=
  String.ofList (Text.trimEndBy (· == '/') mount.toList)

theorem mountFront_append_trailingSlashes (mount : String) :
    mountFront mount ++ trailingSlashes mount = mount := by
  apply String.toList_inj.1
  rw [String.toList_append, mountFront, trailingSlashes, String.toList_ofList, String.toList_ofList]
  exact List.rdropWhile_append_rtakeWhile

theorem pathUnder_rooted (mount rest : String) :
    Request.pathUnder mount ("/" ++ rest) = mountFront mount ++ ("/" ++ rest) := by
  apply String.toList_inj.1
  have slash : ("/" ++ rest).toList = '/' :: rest.toList := by simp
  rw [String.toList_append, Request.pathUnder, mountFront, String.toList_ofList,
    String.toList_ofList, slash]
  rfl

/-- Under a mount path a path begins with an enforced one if, below it, it begins with the trailing
slashes of the mount path and the entry. -/
theorem beginsEnforced_iff (mount entry : String) {info : String}
    (rooted : ∃ rest, info = "/" ++ rest) :
    (∃ rest, Request.pathUnder mount info = mount ++ entry ++ rest) ↔
      ∃ rest, info = trailingSlashes mount ++ entry ++ rest := by
  obtain ⟨below, rfl⟩ := rooted
  rw [pathUnder_rooted]
  have regroup : ∀ rest, mount ++ entry ++ rest =
      mountFront mount ++ (trailingSlashes mount ++ entry ++ rest) := fun rest => by
    conv_lhs => rw [← mountFront_append_trailingSlashes mount]
    simp only [String.append_assoc]
  constructor
  · rintro ⟨rest, same⟩
    rw [regroup] at same
    exact ⟨rest, (String.append_right_inj _).1 same⟩
  · rintro ⟨rest, same⟩
    exact ⟨rest, by rw [regroup, same]⟩

/-! ## Requests under a mount path -/

/-- A request that a mount path is in front of: its path is the mount path with the path below it,
which begins with a slash. -/
structure Request.IsUnder (r : Request) (mount : String) : Prop where
  path : r.path = pathUnder mount r.pathInfo
  rooted : ∃ rest, r.pathInfo = "/" ++ rest

theorem isUnder_of_receive {s : Settings} {d : Delivery} {r : Request} {mount : String}
    (received : Request.receive s d = .ok r) (mounted : s.mountPath = .text mount)
    (rooted : ∃ rest, r.pathInfo = "/" ++ rest) : r.IsUnder mount := by
  have front : Request.mountOf s d.vars = .ok (.text mount) := by
    unfold Request.mountOf
    rw [mounted]
    rfl
  unfold Request.receive at received
  rw [front, ok_bind] at received
  obtain ⟨_, -, received⟩ := bind_eq_ok_iff.1 received
  obtain ⟨_, -, received⟩ := bind_eq_ok_iff.1 received
  obtain ⟨_, -, received⟩ := bind_eq_ok_iff.1 received
  cases received
  exact ⟨rfl, rooted⟩

/-! ## The guard of unmounted paths -/

section Unmounted
variable {s : Settings} {tally : Tally} {entries : Options} {mount : String} {starts : List String}

/-- The paths that are enforced are those of the options, behind the mount path as it is written. -/
theorem build_of_unmounted (given : s.auth? = some (.mapping entries))
    (mounted : s.mountPath = .text mount) (on : s.policyFlag.answer tally = .ok true)
    (unset : entries.last? "CONTEXT_PATH" = none ∨ entries.last? "CONTEXT_PATH" = some .null)
    (limited : entries.last? "PATHS" = some (.list (starts.map .text)))
    (trimmed : ∀ start ∈ starts, Text.trim start = start) :
    ∃ g part, (Guard.build s).answer tally = .ok g ∧
      g.gate = .ready (.enforcing part (some (starts.map (mount ++ ·)))) := by
  obtain ⟨options, found, offered⟩ :=
    Settings.options_of_mapping (Settings.overrides_of_mapping given)
  have context : options.lookup "CONTEXT_PATH" = some (.text mount) := by
    have stands_in : s.mount = .text mount := by
      rw [← mountOrNothing_text mount, ← mounted]
      rfl
    rw [offered.context, ← stands_in]
    rcases unset with h | h <;> rw [h] <;> rfl
  have paths : options.lookup "PATHS" = some (.list (starts.map .text)) := by
    rw [offered.other _ (by decide), limited, Option.some_or]
  obtain ⟨part, subject⟩ := offered.exists_of_default "CERT_CONTAINS" (by decide) rfl
  obtain ⟨header, proxy⟩ := offered.exists_of_default "CERT_HEADER" (by decide) rfl
  have start : options.start = .ok ⟨part, .list (starts.map .text), .text mount⟩ :=
    start_eq_ok_iff.2 ⟨subject, paths, context⟩
  have scope : StartOptions.scope ⟨part, .list (starts.map .text), .text mount⟩ = _ :=
    scope_of_trimmed rfl rfl trimmed mount
  have configured := (configureFrom_eq_ok_iff found).2 ⟨_, start, .inr ⟨on, _, scope, rfl⟩⟩
  exact ⟨⟨header, _⟩, part, build_eq_ok_iff.2 ⟨options, found, proxy, _, configured, rfl⟩, rfl⟩

end Unmounted

/-! ## The scope below the mount path -/

theorem covers_mounted_iff {r : Request} {mount : String} (under : r.IsUnder mount)
    (starts : List String) :
    covers (some (starts.map (mount ++ ·))) r.path = true ↔
      ∃ start ∈ starts, ∃ rest, r.pathInfo = trailingSlashes mount ++ start ++ rest := by
  rw [under.path, covers_iff]
  constructor
  · intro inside
    obtain ⟨_, mem, begins⟩ := inside _ rfl
    obtain ⟨start, mem', rfl⟩ := List.mem_map.1 mem
    exact ⟨start, mem', (beginsEnforced_iff mount start under.rooted).1 begins⟩
  · rintro ⟨start, mem, begins⟩ _ ⟨⟩
    exact ⟨_, List.mem_map_of_mem mem, (beginsEnforced_iff mount start under.rooted).2 begins⟩

/-- A request with the least that a path needs. -/
def Request.below (mount info : String) : Request where
  verb := "GET"
  path := pathUnder mount info
  pathInfo := info
  vars := []
  attached := .value .null

/-- Not every entry begins with slashes and an entry behind them: that one would be shorter, and the
one in it shorter still, without end. -/
theorem no_shorter_entry {slashes : String} {starts : List String}
    (fits : ∀ start ∈ starts, ∃ shorter ∈ starts, ∃ rest, start = slashes ++ shorter ++ rest) :
    slashes = "" ∨ starts = [] := by
  by_contra h
  push Not at h
  obtain ⟨ne, some_entry⟩ := h
  obtain ⟨start, mem⟩ := List.exists_mem_of_ne_nil starts some_entry
  have positive : 0 < slashes.length := by
    rw [Nat.pos_iff_ne_zero]
    simpa using ne
  -- by induction on the length of an entry, each of which has one that is shorter
  induction size : start.length using Nat.strong_induction_on generalizing start with
  | _ n ih =>
    obtain ⟨shorter, mem', rest, same⟩ := fits start mem
    have less : shorter.length < n := by
      rw [← size, same, String.length_append, String.length_append]
      omega
    exact ih _ less shorter mem' rfl

theorem covers_agrees_iff {mount : String} {starts : List String}
    (rooted : ∀ start ∈ starts, ∃ rest, start = "/" ++ rest) :
    (∀ r : Request, r.IsUnder mount →
      (covers (some (starts.map (mount ++ ·))) r.path = true ↔
        ∃ start ∈ starts, ∃ rest, r.pathInfo = start ++ rest)) ↔
      trailingSlashes mount = "" ∨ starts = [] := by
  constructor
  · intro agrees
    refine no_shorter_entry fun start mem => ?_
    have under : (Request.below mount start).IsUnder mount := ⟨rfl, rooted start mem⟩
    have fits : ∃ rest, start = start ++ rest := ⟨"", String.append_empty.symm⟩
    exact (covers_mounted_iff under starts).1 ((agrees _ under).2 ⟨start, mem, fits⟩)
  · rintro (bare | rfl) r under
    · rw [covers_mounted_iff under, bare]
      simp only [String.empty_append]
    · simp [covers]

/-- Enforcement is on for the paths that begin with the trailing slashes of the mount path and an
entry, and a request on one of them without a certificate is refused, while it passes on all other
paths. That is what the entries say of the paths below the mount path exactly if the mount path
does not end with a slash or there is no entry. -/
theorem scope_agrees_iff {s : Settings} {tally : Tally} {entries : Options} {mount : String}
    {starts : List String} (given : s.auth? = some (.mapping entries))
    (mounted : s.mountPath = .text mount) (on : s.policyFlag.answer tally = .ok true)
    (unset : entries.last? "CONTEXT_PATH" = none ∨ entries.last? "CONTEXT_PATH" = some .null)
    (limited : entries.last? "PATHS" = some (.list (starts.map .text)))
    (rooted : ∀ start ∈ starts, ∃ rest, start = "/" ++ rest)
    (trimmed : ∀ start ∈ starts, Text.trim start = start) :
    ∃ g c, (Guard.build s).answer tally = .ok g ∧ g.gate = .ready c ∧
      (∀ r : Request, r.IsUnder mount → ∀ now,
        ((∃ start ∈ starts, ∃ rest, r.pathInfo = trailingSlashes mount ++ start ++ rest) →
          (inScope c (.text r.path)).result = .ok true ∧
            (r.chain? g.header = .ok none → (g.check now r).result = .ok (some Guard.refusal))) ∧
        ((¬ ∃ start ∈ starts, ∃ rest, r.pathInfo = trailingSlashes mount ++ start ++ rest) →
          (inScope c (.text r.path)).result = .ok false ∧
            (r.chain? g.header = .ok none → (g.check now r).result = .ok none))) ∧
      ((∀ r : Request, r.IsUnder mount → ((inScope c (.text r.path)).result = .ok true ↔
          ∃ start ∈ starts, ∃ rest, r.pathInfo = start ++ rest)) ↔
        trailingSlashes mount = "" ∨ starts = []) := by
  obtain ⟨g, part, built, ready⟩ := build_of_unmounted given mounted on unset limited trimmed
  refine ⟨g, _, built, ready, fun r under now => ?_, ?_⟩
  · have unpresented : r.chain? g.header = .ok none → (g.check now r).result =
        .ok (if covers (some (starts.map (mount ++ ·))) r.path then some Guard.refusal
          else none) := by
      intro nothing
      rw [result_check, nothing, ok_bind, ready]
      show Guard.reply <$> (verdict _ _ _ _).result = _
      rw [result_verdict_enforcing]
      cases covers (some (starts.map (mount ++ ·))) r.path <;> rfl
    rw [result_inScope, ← covers_mounted_iff under]
    cases inside : covers (some (starts.map (mount ++ ·))) r.path with
    | true =>
      rw [inside] at unpresented
      exact ⟨fun _ => ⟨rfl, unpresented⟩, fun apart => absurd rfl apart⟩
    | false =>
      rw [inside] at unpresented
      exact ⟨fun fits => absurd fits Bool.false_ne_true, fun _ => ⟨rfl, unpresented⟩⟩
  · simp only [result_inScope, Except.ok.injEq]
    exact covers_agrees_iff rooted

/-! ## Mount paths with and without a slash at their end -/

/-- Settings with one path, below a mount path. -/
def settingsUnder (mount : String) : Settings where
  auth? := some (.mapping [("ENFORCE", .bool true), ("PATHS", .list [.text "/reports"])])
  mountPath := .text mount
  environment := []
  library := emptyLibrary

theorem scope_agrees_app :
    ∃ g c, (Guard.build (settingsUnder "/app")).answer [] = .ok g ∧ g.gate = .ready c ∧
      (∀ r : Request, r.IsUnder "/app" → ((inScope c (.text r.path)).result = .ok true ↔
        ∃ start ∈ ["/reports"], ∃ rest, r.pathInfo = start ++ rest)) := by
  have rooted : ∀ start ∈ ["/reports"], ∃ rest, start = "/" ++ rest := by
    simp only [List.mem_singleton, forall_eq]
    exact ⟨"reports", by decide⟩
  have trimmed : ∀ start ∈ ["/reports"], Text.trim start = start := by decide
  obtain ⟨g, c, built, ready, -, agrees⟩ := @scope_agrees_iff (settingsUnder "/app") [] _ "/app"
    ["/reports"] rfl rfl rfl (.inl rfl) rfl rooted trimmed
  exact ⟨g, c, built, ready, agrees.2 (.inl (by decide))⟩

/-- With a slash at the end of the mount path a request on the one path of the settings is out of
scope, and it passes without a certificate. -/
theorem reports_pass_under_slash :
    ∃ g c, (Guard.build (settingsUnder "/app/")).answer [] = .ok g ∧ g.gate = .ready c ∧
      ∃ r : Request, r.IsUnder "/app/" ∧ r.pathInfo = "/reports/1" ∧ r.path = "/app/reports/1" ∧
      ¬ ((inScope c (.text r.path)).result = .ok true ↔
        ∃ start ∈ ["/reports"], ∃ rest, r.pathInfo = start ++ rest) ∧
      ∀ now, (g.check now r).result = .ok none := by
  have under : (Request.below "/app/" "/reports/1").IsUnder "/app/" :=
    ⟨rfl, "reports/1", by decide⟩
  refine ⟨⟨.null, .ready (.enforcing .null (some ["/app//reports"]))⟩, _, by rfl, rfl,
    .below "/app/" "/reports/1", under, rfl, by decide, fun agrees => ?_, fun now => by rfl⟩
  have outside := agrees.2 ⟨"/reports", List.mem_singleton_self _, "/1", by decide⟩
  rw [result_inScope] at outside
  cases outside

end CertGate
