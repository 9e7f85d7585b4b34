import PrismaNest.Proofs.Workspace.Retention

/-! What a write that fails leaves.

Wherever a write fails, its temporary file is gone and nothing has been put in its place. So all
that it leaves are folders on the way to the file.
-/

set_option autoImplicit false

namespace PrismaNest.Action

open Workspace

variable {before after : Workspace} {path : Path} {content : ByteArray} {failure : Failure}

theorem overwritten_failed (failed : before.overwritten path content = (.error failure, after)) :
    after = before := by
  rw [overwritten] at failed
  split at failed
  · cases failed
  · cases failed
    rfl

theorem writeThrough_failed
    (failed : (writeThrough path content).result before = (.error failure, after)) :
    after = before := by
  rcases writeThrough_cases path content before with ⟨raised, ran⟩ | ⟨-, ran⟩ | ⟨-, ran⟩
  · rw [ran] at failed
    cases failed
    rfl
  · exact overwritten_failed (ran.symm.trans failed)
  · exact overwritten_failed (ran.symm.trans failed)

theorem writeInPlace_failed
    (failed : (writeInPlace path content).result before = (.error failure, after)) :
    after = before := by
  rw [result_writeInPlace] at failed
  split at failed
  · cases failed
    rfl
  · exact overwritten_failed failed

theorem deliver_failed {atomic : Bool}
    (failed : (deliver path content atomic).result before = (.error failure, after)) :
    after = before := by
  cases atomic with
  | true => exact writeThrough_failed failed
  | false => exact writeInPlace_failed failed

-- A write that fails has made folders above the file at most.
theorem writeText_failed {text : String} {atomic : Bool}
    (failed : (writeText path text atomic).result before = (.error failure, after)) :
    before.GrowsAlong path.parent after := by
  have grown := ensureFolder_grows path.parent before
  rcases of_writeText_error failed with ensured | ⟨middle, ensured, delivered⟩
  · rw [ensured] at grown
    exact grown
  · rw [ensured] at grown
    rw [deliver_failed delivered]
    exact grown

end PrismaNest.Action
