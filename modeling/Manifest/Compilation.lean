import Manifest.Diagnostic.Explain
import Manifest.Diagnostic.Report

/-!
# Compilation

A tree is compiled by registering all its declarations, looking for references that lead nowhere,
and lowering it. All that is found on the way is told in this order.
-/

namespace Manifest

/-- What there is to tell about a tree, and the session after its lowering. -/
def compile {σ ι : Type} (provider : Provider σ ι) (options : Options) (scope : Scope) (world : σ) :
    List Diagnostic × Session σ :=
  let log := DeclarationLog.empty.registerScope scope
  let warnings := (log.danglingReferences scope).map DanglingReference.diagnostic
  match lower provider options scope world with
  | (.ok lowered, session) => (warnings ++ lowered.diagnostics, session)
  | (.error fault, session) => (warnings ++ [fault.diagnostic], session)

end Manifest
