import FormTemplate.Proofs.Bytes.Decode
import FormTemplate.Proofs.Bytes.Repair
import FormTemplate.Proofs.Bytes.Scan

/-!
# Loops over the bytes of a text

Scanning a text, reading it as a blob and repairing it are loops over its bytes. Each cuts pieces out of the text at
positions that it has computed: one behind a bracket, a number of bytes behind a comment, five or ten bytes behind the
beginning of a run. Whatever the text is, they never ask for a piece that is none, and they end.

* `loops_run` : the three loops run to their ends, with what is scanned, read and repaired.
-/

set_option autoImplicit false

namespace FormTemplate

open Text (Runs)

/-- **No piece of a text is missing, and no turn stays where it is**, when a text is scanned, read as a blob, or
repaired by byte positions. So the loops end, and what they give is what is scanned, read and repaired. -/
theorem loops_run (text : String) :
    Runs (Marker.scanTurn text) Marker.Scan.position {} (Marker.scan text) ∧
      Runs (Blob.decodeTurn text) Blob.Decoding.position {} (Blob.decode text) ∧
      Runs (Items.repairTurn text) Items.Repairing.position {} (Items.repair text) :=
  ⟨Marker.runs_scanTurn text, Blob.runs_decodeTurn text, Items.runs_repairTurn text⟩

end FormTemplate
