import VpnClient.Addons.Retries

/-! The two files of the index over the updates of a run, when each of them may fail to be written. -/

namespace VpnClient.Addons.AddonIndex

open Ipc (Bytes JsonObject)
open Library.Runs Library.Tables

/-- A call of `update` while the signature is needed, and what the file system answers. -/
structure Call where
  index : Bytes
  indexSignature : Bytes
  getDirectory : Bool := true
  reads : String → Bool := fun _ => true
  writes : String → Bool := fun _ => true

/-- A file system that does not fail. -/
def verifying (verify : Bytes → Bytes → Bool) : Answers where
  signatureVerificationNeeded := true
  validateIndexSignature := verify
  create _ := none

def Call.io (verify : Bytes → Bytes → Bool) (call : Call) : Answers :=
  { verifying verify with getDirectory := call.getDirectory, reads := call.reads, writes := call.writes }

def files (dir : AddonDirectory) : Option Bytes × Option Bytes :=
  (dir.lookup indexFilename, dir.lookup indexSignatureFilename)

variable (formats : Formats) (verify : Bytes → Bytes → Bool)

def next (dir : AddonDirectory) (call : Call) : AddonDirectory :=
  (update formats (call.io verify) call.index call.indexSignature dir).1

def Accepted (pair : Option Bytes × Option Bytes) : Prop :=
  ∃ index indexSignature, pair = (some index, some indexSignature) ∧
    (validate formats (verifying verify) index indexSignature).isSome

/-- The files are a pair that is accepted or the first one, and list add-ons if that one did. -/
structure Intact (initial dir : AddonDirectory) : Prop where
  files : Accepted formats verify (files dir) ∨ files dir = AddonIndex.files initial
  listed : (getOnDiskAddonsList formats (verifying verify) initial).isSome →
    (getOnDiskAddonsList formats (verifying verify) dir).isSome

/-- A list is emitted only if it is that of the index, which is valid and on the disk with its signature. -/
def Announced (dir : AddonDirectory) (call : Call) : Prop :=
  ∀ addons ∈ (update formats (call.io verify) call.index call.indexSignature dir).2,
    files (next formats verify dir call) = (some call.index, some call.indexSignature) ∧
      ∃ obj ∈ validate formats (call.io verify) call.index call.indexSignature, addons = extractAddonsFromIndex obj

/-- A new index is written, and its signature is not. -/
structure Interrupted (dir : AddonDirectory) (call : Call) : Prop where
  changed : read (call.io verify) dir ≠ some (call.index, call.indexSignature)
  valid : (validate formats (call.io verify) call.index call.indexSignature).isSome
  written : AddonDirectory.writable (call.io verify) indexFilename call.index = true
  failed : AddonDirectory.writable (call.io verify) indexSignatureFilename call.indexSignature = false

/-- No update is interrupted, unless the signature that stays is one of the new index or both are those of before. -/
def Spared (initial dir : AddonDirectory) (call : Call) : Prop :=
  Interrupted formats verify dir call → Accepted formats verify (some call.index, dir.lookup indexSignatureFilename) ∨
    (some call.index, dir.lookup indexSignatureFilename) = files initial

variable {formats verify} {io : Answers} {initial dir : AddonDirectory} {call : Call} {index indexSignature : Bytes}

lemma indexFilename_ne : indexFilename ≠ indexSignatureFilename := by decide

lemma files_write (hn : io.signatureVerificationNeeded = true) : files (write io index indexSignature dir).1 =
    if AddonDirectory.writable io indexFilename index then
      (some index, if AddonDirectory.writable io indexSignatureFilename indexSignature then some indexSignature
        else dir.lookup indexSignatureFilename)
    else files dir := by
  rw [write, AddonDirectory.writeToFile]
  by_cases hi : AddonDirectory.writable io indexFilename index = true
  · rw [if_pos hi, if_pos hi]
    dsimp only
    rw [if_pos hn, AddonDirectory.writeToFile]
    by_cases hw : AddonDirectory.writable io indexSignatureFilename indexSignature = true
    · rw [if_pos hw, if_pos hw]
      dsimp only
      rw [files, AList.lookup_insert_ne indexFilename_ne, AList.lookup_insert, AList.lookup_insert]
    · rw [if_neg hw, if_neg hw]
      dsimp only
      rw [files, AList.lookup_insert, AList.lookup_insert_ne indexFilename_ne.symm]
  · rw [if_neg hi, if_neg hi]

variable (formats verify dir call) in
/-- What one update makes of the files. -/
lemma files_next : (Interrupted formats verify dir call ∧
      files (next formats verify dir call) = (some call.index, dir.lookup indexSignatureFilename)) ∨
    ¬Interrupted formats verify dir call ∧ (files (next formats verify dir call) = files dir ∨
      files (next formats verify dir call) = (some call.index, some call.indexSignature) ∧
        (validate formats (verifying verify) call.index call.indexSignature).isSome) := by
  rw [next, update]
  by_cases hr : read (call.io verify) dir = some (call.index, call.indexSignature)
  · rw [if_pos hr]
    exact .inr ⟨fun h => h.changed hr, .inl rfl⟩
  · rw [if_neg hr]
    cases hv : validate formats (call.io verify) call.index call.indexSignature with
    | none =>
      right
      refine ⟨fun h => ?_, .inl rfl⟩
      have hs := h.valid
      rw [hv] at hs
      cases hs
    | some obj =>
      have hf : files (write (call.io verify) call.index call.indexSignature dir).1 =
          if AddonDirectory.writable (call.io verify) indexFilename call.index then
            (some call.index,
              if AddonDirectory.writable (call.io verify) indexSignatureFilename call.indexSignature then
                some call.indexSignature
              else dir.lookup indexSignatureFilename)
          else files dir := files_write rfl
      dsimp only
      rw [apply_ite Prod.fst, ite_self, hf]
      by_cases hi : AddonDirectory.writable (call.io verify) indexFilename call.index = true
      · rw [if_pos hi]
        cases hw : AddonDirectory.writable (call.io verify) indexSignatureFilename call.indexSignature with
        | true =>
          right
          refine ⟨fun h => absurd (h.failed.symm.trans hw) Bool.false_ne_true, .inr ⟨?_, ?_⟩⟩
          · rw [if_pos rfl]
          · exact hv ▸ rfl
        | false =>
          left
          refine ⟨⟨hr, hv ▸ rfl, hi, hw⟩, ?_⟩
          rw [if_neg Bool.false_ne_true]
      · rw [if_neg hi]
        exact .inr ⟨fun h => hi h.written, .inl rfl⟩

lemma announced : Announced formats verify dir call := by
  intro addons h
  rw [next]
  rw [update] at h ⊢
  split at h
  · cases h
  · next hr =>
    rw [if_neg hr]
    cases hv : validate formats (call.io verify) call.index call.indexSignature with
    | none => simp [hv] at h
    | some obj =>
      simp only [hv] at h ⊢
      split at h
      · next hw =>
        obtain rfl := Option.some.inj h
        obtain ⟨hi, hs⟩ := written_iff_writable.mp hw
        rw [if_pos hw, files_write rfl, if_pos hi, if_pos (hs rfl)]
        exact ⟨rfl, obj, rfl, rfl⟩
      · cases h

lemma getOnDiskAddonsList_isSome_iff :
    (getOnDiskAddonsList formats (verifying verify) dir).isSome ↔ Accepted formats verify (files dir) := by
  have hr : read (verifying verify) dir = (dir.lookup indexFilename).bind fun index =>
      (dir.lookup indexSignatureFilename).map fun indexSignature => (index, indexSignature) := by
    rw [read, AddonDirectory.readFile]
    cases hi : dir.lookup indexFilename <;> rfl
  rw [getOnDiskAddonsList, hr, Accepted, files]
  cases hi : dir.lookup indexFilename with
  | none => simp
  | some index =>
    cases hs : dir.lookup indexSignatureFilename with
    | none => simp
    | some indexSignature => simp

lemma intact_iff : Intact formats verify initial dir ↔
    Accepted formats verify (files dir) ∨ files dir = files initial := by
  refine ⟨fun h => h.files, fun h => ⟨h, ?_⟩⟩
  rw [getOnDiskAddonsList_isSome_iff, getOnDiskAddonsList_isSome_iff]
  obtain h | h := h
  · exact fun _ => h
  · rw [h]
    exact id

lemma Intact.next_iff (h : Intact formats verify initial dir) :
    Spared formats verify initial dir call ↔ Intact formats verify initial (next formats verify dir call) := by
  rw [intact_iff]
  obtain ⟨hi, he⟩ | ⟨hi, he | ⟨he, hv⟩⟩ := files_next formats verify dir call
  · rw [he]
    exact ⟨fun hs => hs hi, fun hs _ => hs⟩
  · rw [he]
    exact ⟨fun _ => h.files, fun _ hc => absurd hc hi⟩
  · rw [he]
    exact ⟨fun _ => .inl ⟨_, _, rfl, hv⟩, fun _ hc => absurd hc hi⟩

theorem intact_iff_spared (formats : Formats) (verify : Bytes → Bytes → Bool) (initial : AddonDirectory)
    (calls : List Call) :
    (∀ dir call, Announced formats verify dir call) ∧
      ((∀ before, before <+: calls → Intact formats verify initial (run (next formats verify) initial before)) ↔
        Meets (next formats verify) (Spared formats verify initial) initial calls) := by
  have hi : Intact formats verify initial initial := ⟨.inr rfl, id⟩
  refine ⟨fun _ _ => announced, Iff.symm ?_⟩
  exact meets_iff_throughout (fun _ _ h hs => h.next_iff.mp hs) (fun _ _ h => h.next_iff) hi hi

/-- The signature of the second index cannot be written, where an index signs itself. -/
theorem not_intact_interrupted :
    let verify := fun index indexSignature : Bytes => index == indexSignature
    let text := fun sha256 => AddonManager.indexText (some sha256)
    let first := ⟨text AddonManager.sha256OfA, text AddonManager.sha256OfA, true, fun _ => true, fun _ => true⟩
    let second := ⟨text AddonManager.sha256OfB, text AddonManager.sha256OfB, true, fun _ => true, (· = indexFilename)⟩
    let initial := run (next AddonManager.sample verify) ∅ [first]
    ¬∀ before, before <+: [second] → Intact AddonManager.sample verify initial
      (run (next AddonManager.sample verify) initial before) := by
  intro verify text first second initial h
  have hl := (h _ List.prefix_rfl).listed (by decide +kernel)
  exact absurd hl (by decide +kernel)

end VpnClient.Addons.AddonIndex
