import ResourceSymbols.Proofs.DiskAppend
import ResourceSymbols.Proofs.Hoare
import ResourceSymbols.Files.Buffer

namespace ResourceSymbols

open Disk

/-! ### A write buffer in front of a regular file -/

namespace Files.Buffer

/-- A buffer in front of the regular file `k`, handed `S` since the disk was `d₀`: `k` holds `c`
and a start of `S`, and the buffer holds the rest. -/
structure Streams (d₀ : Disk) (path k c S : Bytes) (b : Buffer) (d : Disk) : Prop where
  path : b.path = path
  failed : b.failed = none
  sent : ∃ sent, S = sent ++ b.held ∧ d₀.Grown k c sent d

theorem streams_start {d₀ d : Disk} {path k c : Bytes} (hg : d₀.Grown k c [] d) :
    Streams d₀ path k c [] { path := path } d :=
  ⟨rfl, rfl, [], rfl, hg⟩

section Streams

variable {d₀ : Disk} {path k c : Bytes} (hp : d₀.resolve path true = .ok ⟨k, some (.file c)⟩)
include hp

theorem send_grows {b : Buffer} (hb : b.path = path) {sent : Bytes} (data : Bytes) :
    Triple (d₀.Grown k c sent) (b.send data) fun b' d => b' = b ∧ d₀.Grown k c (sent ++ data) d := by
  unfold send
  refine Triple.bind (Q := fun r d => r = .ok () ∧ d₀.Grown k c (sent ++ data) d)
    (Triple.change (fun d hd d' happ => ?_) fun d hd e happ => ?_) fun r => ?_
  · obtain ⟨d'', happ', hg⟩ := hd.append hp data
    rw [hb, happ'] at happ
    cases happ
    exact ⟨rfl, hg⟩
  · obtain ⟨d'', happ', -⟩ := hd.append hp data
    rw [hb, happ'] at happ
    cases happ
  · rintro d ⟨rfl, hg⟩
    exact ⟨rfl, hg⟩

theorem put_streams {S : Bytes} (b : Buffer) (data : Bytes) :
    Triple (Streams d₀ path k c S b) (b.put data) (Streams d₀ path k c (S ++ data)) := by
  refine Triple.of_eq fun d₁ ⟨hpath, hfailed, sent, hS, hg⟩ => ?_
  unfold put
  rw [if_neg (by simp [hfailed])]
  split
  · -- it fits: held back
    exact Triple.pure fun d hd => hd ▸ ⟨hpath, hfailed, sent, by simp [hS], hg⟩
  split
  · -- nothing held, and too much to hold: written at once
    rename_i hempty
    have hnil : b.held = [] := List.isEmpty_iff.1 hempty
    refine ((send_grows hp hpath data).at_state hg).conseq fun b' d ⟨hb', hg'⟩ => ?_
    exact hb' ▸ ⟨hpath, hfailed, sent ++ data, by simp [hS, hnil], hg'⟩
  -- the buffer filled up and written out, then the rest held or written too
  refine Triple.bind ((send_grows hp (b := { b with held := [] }) hpath _).at_state hg)
    fun b' => Triple.of_prop fun hb' => ?_
  subst hb'
  rw [if_neg (by simp [hfailed])]
  dsimp only
  have hsplit : S ++ data = sent ++ (b.held ++ data.take (b.size - b.held.length)) ++
      data.drop (b.size - b.held.length) := by
    simp [hS]
  split
  · exact Triple.pure fun d hd => ⟨hpath, hfailed, _, hsplit, hd⟩
  · refine (send_grows hp (b := { b with held := [] }) hpath _).conseq fun b' d ⟨hb', hg'⟩ => ?_
    exact hb' ▸ ⟨hpath, hfailed, _, by simpa using hsplit, hg'⟩

theorem flush_streams {S : Bytes} (b : Buffer) :
    Triple (Streams d₀ path k c S b) b.flush fun b' d => b'.failed = none ∧ d₀.Grown k c S d := by
  refine Triple.of_eq fun d₁ ⟨hpath, hfailed, sent, hS, hg⟩ => ?_
  unfold flush
  by_cases hempty : b.held.isEmpty = true
  · -- nothing held: all was written
    rw [if_pos (by simp [hempty])]
    exact Triple.pure fun d hd => ⟨hfailed, by simpa [hS, List.isEmpty_iff.1 hempty, hd] using hg⟩
  · rw [if_neg (by simp [hfailed, hempty])]
    refine ((send_grows hp (b := { b with held := [] }) hpath _).at_state hg).conseq
      fun b' d ⟨hb', hg'⟩ => ?_
    exact ⟨hb' ▸ hfailed, hS ▸ hg'⟩

end Streams

/-- A buffer in front of a file every write to which fails, handed `S`: a write failed, or the
buffer still holds all of `S`. -/
structure Blocked (path S : Bytes) (b : Buffer) : Prop where
  path : b.path = path
  held : b.failed.isSome ∨ b.held = S

theorem blocked_start (path : Bytes) : Blocked path [] { path := path } := ⟨rfl, .inr rfl⟩

section Blocked

variable {d₁ : Disk} {path k : Bytes} (hfull : d₁.resolve path true = .ok ⟨k, some .full⟩)
include hfull

theorem send_fails {b : Buffer} (hb : b.path = path) (data : Bytes) :
    Triple (· = d₁) (b.send data) fun b' d => b'.failed.isSome ∧ b'.path = path ∧ d = d₁ := by
  unfold send
  refine Triple.bind (Q := fun r d => r ≠ .ok () ∧ d = d₁)
    (Triple.change (fun d hd d' happ => ?_) fun d hd e _ => ⟨by simp, hd⟩) fun r => ?_
  · rw [hd, hb, append_full hfull] at happ
    cases happ
  · rintro d ⟨hr, rfl⟩
    rcases r with e | ⟨⟩
    · exact ⟨rfl, hb, rfl⟩
    · exact absurd rfl hr

theorem put_blocked {S : Bytes} {b : Buffer} (h : Blocked path S b) (data : Bytes) :
    Triple (· = d₁) (b.put data) fun b' d => Blocked path (S ++ data) b' ∧ d = d₁ := by
  unfold put
  by_cases hfailed : b.failed.isSome = true
  · rw [if_pos hfailed]
    exact Triple.pure fun d hd => ⟨⟨h.path, .inl hfailed⟩, hd⟩
  rw [if_neg hfailed]
  have hheld : b.held = S := h.held.resolve_left hfailed
  split
  · -- it fits: held back
    exact Triple.pure fun d hd => ⟨⟨h.path, .inr (by simp [hheld])⟩, hd⟩
  split
  · exact (send_fails hfull h.path data).conseq fun b' d ⟨hf, hp, hd⟩ => ⟨⟨hp, .inl hf⟩, hd⟩
  · -- the first write, of a full buffer, fails
    refine Triple.bind (send_fails hfull (b := { b with held := [] }) h.path _) fun b' => ?_
    intro d ⟨hf, hp, hd⟩
    simp only [hf, if_true]
    exact ⟨⟨hp, .inl hf⟩, hd⟩

theorem flush_blocked {S : Bytes} {b : Buffer} (h : Blocked path S b) (hS : S ≠ []) :
    Triple (· = d₁) b.flush fun b' d => b'.failed.isSome ∧ d = d₁ := by
  unfold flush
  by_cases hfailed : b.failed.isSome = true
  · rw [if_pos (by simp [hfailed])]
    exact Triple.pure fun d hd => ⟨hfailed, hd⟩
  have hheld : b.held = S := h.held.resolve_left hfailed
  rw [if_neg (by simp [hfailed, hheld, hS])]
  exact (send_fails hfull (b := { b with held := [] }) h.path _).conseq fun b' d ⟨hf, _, hd⟩ => ⟨hf, hd⟩

end Blocked

end Files.Buffer

end ResourceSymbols
