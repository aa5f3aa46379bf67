import HtcLeo.Sd.Block

/-!
# Transfers on any status words

The runs of blocks over an arbitrary read of `MCI_STATUS`, as the functions for one block
are.
-/

namespace HtcLeo.Sd.Polled

open Poll Flags

variable (status : Poll U32 Sdcc U32)

/-- `mmc_bread` or `mmc_bwrite`. -/
def run (port : Port) : Direction → U32 → U32 → Nat → Poll U32 Sdcc U32
  | .read => mmcBread status port
  | .write => mmcBwrite status port

theorem run_eq (port : Port) (direction : Direction) (blknr blkcnt : U32) (buffer : Nat) :
    run status port direction blknr blkcnt buffer =
      blockRun (aBlock status port direction) blkcnt.toNat blknr buffer 0 := by
  cases direction <;> rfl

/-! ## What a transfer leaves alone -/

section Frames

variable {τ : Type} {observe : Sdcc → τ} {status : Poll U32 Sdcc U32} {port : Port}
  {sd final : Sdcc} {tape rest : List U32} (quiet : Frames observe status)

include quiet

theorem frames_wait {α : Type} (choose : U32 → Unit ⊕ α) :
    Frames observe (loop (fun _ => status >>= fun word => pure (choose word)) ()) :=
  frames_loop (fun _ => frames_bind quiet fun _ => frames_pure _) ()

variable (clears : ∀ mask, Frames observe (writeReg .clear mask))

include clears

theorem frames_checkClearStatus (errors cleared : U32) :
    Frames observe (checkClearStatus status errors cleared) := by
  refine frames_bind (frames_wait quiet _) fun ended => frames_ite (frames_pure _) ?_
  refine frames_bind ?_ fun _ => frames_pure _
  exact frames_bind (clears _) fun _ => frames_bind (clears _) fun _ =>
    frames_bind (frames_wait quiet _) fun _ => frames_bind (clears _) fun _ =>
    frames_bind (frames_wait quiet _) fun _ => clears _

/-- A command is seen by its two registers. -/
theorem sdccSendCmd_frames {cmd arg : U32} {sent : Bool × (Nat → U32)}
    (returned : sdccSendCmd status port cmd arg sd tape = some (sent, final, rest)) :
    observe final = observe ((sd.wrote .argument arg).wrote .cmd cmd) := by
  rw [sdccSendCmd, writeReg_bind_apply, writeReg_bind_apply] at returned
  refine (frames_ite ?_ ?_ : Frames observe _) returned
  · exact frames_bind (frames_wait quiet _) fun _ => frames_bind (clears _) fun _ =>
      frames_bind (frames_wait quiet _) fun _ => frames_bind (clears _) fun _ =>
      frames_bind (clears _) fun _ => frames_bind frames_get fun _ => frames_pure _
  · exact frames_bind (frames_wait quiet _) fun _ => frames_bind (clears _) fun _ =>
      frames_bind (frames_wait quiet _) fun _ => frames_pure _

/-- The end of a write is seen by the command that asks for the card's status. -/
theorem awaitProgDone_frames {rca : BitVec 16} {ok : Bool}
    (returned : awaitProgDone status port rca sd tape = some (ok, final, rest)) :
    observe final = observe ((sd.wrote .argument (rca.setWidth 32 <<< 16)).wrote .cmd
      (CMD13 ||| MCI_CMD_ENABLE ||| MCI_CMD_RESPONSE ||| MCI_CMD_PROG_ENA)) := by
  rw [awaitProgDone] at returned
  rcases bind_eq_some_iff.mp returned with ⟨sent, middle, left, commanded, returned⟩
  have waited : observe final = observe middle := by
    refine (frames_ite (frames_pure _) ?_ : Frames observe _) returned
    exact frames_bind (frames_wait quiet _) fun _ => frames_bind (clears _) fun _ =>
      frames_bind (frames_wait quiet _) fun _ => frames_pure _
  exact waited.trans (sdccSendCmd_frames quiet clears commanded)

end Frames

end HtcLeo.Sd.Polled
