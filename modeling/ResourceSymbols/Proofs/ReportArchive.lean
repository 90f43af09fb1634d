import ResourceSymbols.Proofs.ReportItems
import ResourceSymbols.Proofs.ReportBuffer

namespace ResourceSymbols

open Disk Files.Buffer

namespace Zip

theorem additions_finish (last : Option Item) (ms : List Item) :
    (additions last ms).flatten ++ finish (ms.getLast?.or last) = finish last ++ ms.flatMap member := by
  induction ms generalizing last with
  | nil => simp [additions]
  | cons i rest ih =>
    have hlast : (i :: rest).getLast?.or last = rest.getLast?.or (some i) := by
      cases h : rest.getLast? <;> simp [List.getLast?_cons, h]
    simp only [additions, List.flatten_cons, hlast, List.append_assoc, ih, List.flatMap_cons]
    simp [finish, member, Item.packed]

theorem stream_archive (head : Item) (ms : List Item) :
    localHeader head ++ head.early ++ (additions (some head) ms).flatten ++
      closing (head :: ms) (ms.getLast?.or (some head)) = archive (head :: ms) := by
  have h := additions_finish (some head) ms
  simp only [closing, archive, List.append_assoc] at h ⊢
  rw [← List.append_assoc (additions (some head) ms).flatten, h]
  simp [finish, member, Item.packed]

theorem endRecord_ne_nil (count size offset : Nat) : endRecord count size offset ≠ [] := by
  intro h
  have := congrArg List.length h
  simp only [endRecord, fields, List.flatMap_cons, List.length_append, littleEndian,
    List.length_map, List.length_range, List.length_nil] at this
  omega

theorem closing_ne_nil (items : List Item) (last : Option Item) : closing items last ≠ [] := by
  simp only [closing, ne_eq, List.append_eq_nil_iff, endRecord_ne_nil, and_false,
    not_false_eq_true]

end Zip

namespace Report

def Item.memberOn (d : Disk) (name : Bytes) : Item → Option Zip.Item
  | .data bytes stamp => if bytes.isEmpty then none else some (Zip.Item.ofData name stamp bytes 0)
  | .file _ actual =>
    match d.resolve actual true with
    | .ok ⟨k, some (.file b)⟩ => some (Zip.Item.ofData name ((d.stamps.lookup k).getD 0) b 32768)
    | _ => none

def members (d : Disk) (items : List (Bytes × Item)) : List Zip.Item :=
  items.filterMap fun e => e.2.memberOn d e.1

def Item.Apart (d : Disk) (k : Bytes) : Item → Prop
  | .data _ _ => True
  | .file _ actual => ∀ pl, d.resolve actual true = .ok pl → pl.name ≠ k

theorem member_keeps (name : Bytes) (item : Item) (d₁ : Disk) :
    Triple (· = d₁) (Item.member name item) fun _ d => d = d₁ := by
  cases item with
  | data bytes stamp =>
    simp only [Item.member]
    split <;> exact Triple.pure fun d hd => hd
  | file original actual =>
    simp only [Item.member]
    refine Triple.bind (Q := fun _ d => d = d₁) (fun d hd => hd) fun r => ?_
    split
    · exact Triple.bind (Q := fun _ d => d = d₁) (fun d hd => hd) fun r => by
        split <;> exact Triple.pure fun d hd => hd
    · exact Triple.pure fun d hd => hd

theorem member_grown {d₀ d : Disk} {k c S : Bytes} (h : d₀.Grown k c S d) {item : Item}
    (hitem : item.Apart d₀ k) (name : Bytes) :
    Triple (· = d) (Item.member name item) fun r d' => r = .ok (item.memberOn d₀ name) ∧ d' = d := by
  cases item with
  | data bytes stamp =>
    simp only [Item.member]
    split <;> exact Triple.pure fun d' hd => ⟨by simp_all [Item.memberOn], hd⟩
  | file original actual =>
    simp only [Item.member]
    refine Triple.bind (Q := fun r d' => r = d₀.statTime actual ∧ d' = d)
      (fun d' hd => ⟨hd ▸ h.statTime hitem, hd⟩) fun r => Triple.of_prop fun hr => ?_
    subst hr
    cases hres : d₀.resolve actual true with
    | error e =>
      simp only [Disk.statTime, hres]
      exact Triple.pure fun d' hd => ⟨by simp [Item.memberOn, hres], hd⟩
    | ok pl =>
      obtain ⟨x, node⟩ := pl
      cases node with
      | none =>
        simp only [Disk.statTime, hres]
        exact Triple.pure fun d' hd => ⟨by simp [Item.memberOn, hres], hd⟩
      | some n =>
        cases n with
        | file b =>
          simp only [Disk.statTime, hres, Node.kind]
          refine Triple.bind (Q := fun r d' => r = d₀.read actual ∧ d' = d)
            (fun d' hd => ⟨hd ▸ h.read hitem, hd⟩) fun r => Triple.of_prop fun hr => ?_
          subst hr
          simp only [Disk.read, hres]
          exact Triple.pure fun d' hd => ⟨by simp [Item.memberOn, hres], hd⟩
        | _ =>
          simp only [Disk.statTime, hres, Node.kind]
          exact Triple.pure fun d' hd => ⟨by simp [Item.memberOn, hres], hd⟩

theorem addAll_streams {d₀ : Disk} {path k c : Bytes}
    (hp : d₀.resolve path true = .ok ⟨k, some (.file c)⟩) (items : List (Bytes × Item))
    (hitems : ∀ e ∈ items, e.2.Apart d₀ k) :
    ∀ (buf : Files.Buffer) (added : List Zip.Item) (last : Option Zip.Item) (S : Bytes),
      Triple (Streams d₀ path k c S buf) (addAll buf added last items) fun res d =>
        res.2.2.2 = none ∧ res.2.1 = added ++ members d₀ items ∧
        res.2.2.1 = (members d₀ items).getLast?.or last ∧
        Streams d₀ path k c (S ++ (Zip.additions last (members d₀ items)).flatten) res.1 d := by
  induction items with
  | nil =>
    intro buf added last S
    exact Triple.pure fun d hd => ⟨rfl, by simp [members], by simp [members],
      by simpa [members, Zip.additions] using hd⟩
  | cons e rest ih =>
    obtain ⟨name, item⟩ := e
    intro buf added last S
    have hrest := ih fun e he => hitems e (List.mem_cons_of_mem _ he)
    have hitem : item.Apart d₀ k := hitems (name, item) List.mem_cons_self
    refine Triple.of_eq fun d₁ hs => ?_
    obtain ⟨sent, -, hg⟩ := hs.sent
    simp only [addAll]
    refine Triple.bind (member_grown hg hitem name) fun r => Triple.of_prop fun hr => ?_
    subst hr
    cases hm : item.memberOn d₀ name with
    | none =>
      have hms : members d₀ ((name, item) :: rest) = members d₀ rest := by
        simp [members, hm]
      simp only [hms]
      exact (hrest buf added last S).weaken fun d hd => hd ▸ hs
    | some i =>
      have hms : members d₀ ((name, item) :: rest) = i :: members d₀ rest := by
        simp [members, hm]
      simp only [hms]
      refine Triple.bind ((put_streams hp buf _).weaken fun d hd => hd ▸ hs) fun buf₁ => ?_
      refine Triple.bind (put_streams hp buf₁ _) fun buf₂ => ?_
      refine Triple.of_eq fun d₂ hs₂ => ?_
      rw [hs₂.failed]
      refine ((hrest buf₂ (added ++ [i]) (some i) _).at_state hs₂).conseq
        fun res d ⟨hf, hadded, hlast, hst⟩ => ⟨hf, ?_, ?_, ?_⟩
      · simp [hadded]
      · rw [hlast]
        cases h : (members d₀ rest).getLast? <;> simp [List.getLast?_cons, h]
      · simpa [Zip.additions] using hst

def manifestMember (r : Report) (listed now : Nat) : Zip.Item :=
  Zip.Item.ofData (Bytes.ofString "MANIFEST") now (r.manifest listed) 0

def closeTimes (r : Report) (d : Disk) : Nat × Nat :=
  if r.items.isEmpty then (0, d.clock) else (d.clock, ((Host.now : OnDisk Nat).run d).2.clock)

theorem now_keeps (d₁ : Disk) :
    Triple (· = d₁) (Host.now : OnDisk Nat) fun t d => t = d₁.clock ∧
      d.clock = ((Host.now : OnDisk Nat).run d₁).2.clock ∧
      d.nodes = d₁.nodes ∧ d.workDir = d₁.workDir ∧ d.stamps = d₁.stamps := by
  rintro _ rfl
  exact ⟨rfl, rfl, rfl, rfl, rfl⟩

theorem listed_keeps (r : Report) (d₁ : Disk) :
    Triple (· = d₁) (if r.items.isEmpty then pure 0 else Host.now : OnDisk Nat) fun t d =>
      t = (r.closeTimes d₁).1 ∧ d.clock = (r.closeTimes d₁).2 ∧
      d.nodes = d₁.nodes ∧ d.workDir = d₁.workDir ∧ d.stamps = d₁.stamps := by
  by_cases he : r.items.isEmpty
  · rw [if_pos he]
    exact Triple.pure fun d hd => by simp [closeTimes, he, hd]
  · rw [if_neg he]
    simpa only [closeTimes, if_neg he] using now_keeps d₁

theorem close_writes_archive {r : Report} {d₀ : Disk} {k c : Bytes}
    (hp : d₀.resolve r.file true = .ok ⟨k, some (.file c)⟩) (hitems : ∀ e ∈ r.items, e.2.Apart d₀ k) :
    Triple (· = d₀) r.close fun res d => res = none ∧
      d₀.Grown k c (Zip.archive (r.manifestMember (r.closeTimes d₀).1 (r.closeTimes d₀).2 ::
        members d₀ r.items)) d := by
  have hk : d₀.node? k = some (.file c) := (resolve_node hp).symm
  rw [close]
  -- the clock is read once or twice, moving neither a node, the working directory nor a stamp
  refine Triple.ite_bind (Triple.bind (Q := fun listed d => listed = (r.closeTimes d₀).1 ∧
      d.clock = (r.closeTimes d₀).2 ∧ d₀.Grown k c [] d)
    ((listed_keeps r d₀).conseq fun _ d ⟨hl, hc, hn, hw, hs⟩ =>
      ⟨hl, hc, (Grown.start hk).of_nodes hn hw hs⟩)
    fun listed => Triple.of_eq fun d₁ ⟨hl, hc, hg₁⟩ => ?_)
  subst hl
  refine Triple.bind (Q := fun now d => now = (r.closeTimes d₀).2 ∧ d₀.Grown k c [] d)
    ((now_keeps d₁).conseq fun _ d ⟨ht, _, hn, hw, hs⟩ => ⟨ht.trans hc, hg₁.of_nodes hn hw hs⟩)
    fun now => Triple.of_prop fun hnow => ?_
  subst hnow
  refine Triple.bind ((put_streams hp _ _).weaken fun d hd => streams_start hd) fun buf => ?_
  refine Triple.bind (put_streams hp buf _) fun buf => ?_
  refine Triple.of_eq fun d₂ hs => ?_
  rw [hs.failed]
  refine Triple.bind ((addAll_streams hp _ hitems _ _ _ _).at_state hs) fun res => ?_
  obtain ⟨buf, added, last, failure⟩ := res
  refine Triple.of_eq fun d₃ ⟨hf, hadded, hlast, hs₃⟩ => ?_
  simp only at hf hadded hlast
  subst hf hadded hlast
  refine Triple.bind ((put_streams hp buf _).at_state hs₃) fun buf => ?_
  refine Triple.bind (flush_streams hp buf) fun buf => ?_
  refine Triple.of_eq fun d₄ ⟨hbf, hg⟩ => ?_
  rw [hbf]
  refine Triple.pure fun d hd => ⟨rfl, ?_⟩
  rw [hd, manifestMember, ← Zip.stream_archive]
  -- rewritten to the very goal: checking the two streams equal by unfolding them recurses too deep
  rw [List.nil_append, List.singleton_append] at hg
  exact hg

theorem addAll_blocked {d₁ : Disk} {path k : Bytes}
    (hfull : d₁.resolve path true = .ok ⟨k, some .full⟩) (items : List (Bytes × Item)) :
    ∀ (buf : Files.Buffer) (added : List Zip.Item) (last : Option Zip.Item) (S : Bytes),
      Blocked path S buf →
      Triple (· = d₁) (addAll buf added last items) fun res d =>
        (∃ S', Blocked path S' res.1) ∧ d = d₁ := by
  induction items with
  | nil => exact fun buf added last S hb => Triple.pure fun d hd => ⟨⟨S, hb⟩, hd⟩
  | cons e rest ih =>
    obtain ⟨name, item⟩ := e
    intro buf added last S hb
    simp only [addAll]
    refine Triple.bind (member_keeps name item d₁) fun r => ?_
    split
    · exact Triple.pure fun d hd => ⟨⟨S, hb⟩, hd⟩
    · exact ih buf added last S hb
    · refine Triple.bind (put_blocked hfull hb _) fun buf₁ => Triple.of_eq fun _ ⟨hb₁, hd₁⟩ => ?_
      refine Triple.bind ((put_blocked hfull hb₁ _).weaken fun d hd => hd.trans hd₁) fun buf₂ =>
        Triple.of_eq fun _ ⟨hb₂, hd₂⟩ => ?_
      split
      · exact Triple.pure fun d hd => ⟨⟨_, hb₂⟩, hd.trans hd₂⟩
      · exact (ih buf₂ _ _ _ hb₂).weaken fun d hd => hd.trans hd₂

theorem close_on_full_device {r : Report} {d₀ : Disk} {k : Bytes}
    (hfull : d₀.resolve r.file true = .ok ⟨k, some .full⟩) :
    Triple (· = d₀) r.close fun res d => res.isSome ∧ d.nodes = d₀.nodes := by
  rw [close]
  refine Triple.ite_bind (Triple.bind (Q := fun _ d => d.nodes = d₀.nodes ∧ d.workDir = d₀.workDir)
    ((listed_keeps r d₀).conseq fun _ _ ⟨_, _, hn, hw, _⟩ => ⟨hn, hw⟩)
    fun _ => Triple.of_eq fun d₀' ⟨hn₀, hw₀⟩ => ?_)
  refine Triple.bind (Q := fun _ d => d.nodes = d₀.nodes ∧ d.workDir = d₀.workDir)
    ((now_keeps d₀').conseq fun _ _ ⟨_, _, hn, hw, _⟩ => ⟨hn.trans hn₀, hw.trans hw₀⟩)
    fun now => Triple.of_eq fun d₁ ⟨hn, hw⟩ => ?_
  have hfull₁ := resolve_of_nodes hn hw ⟨by simp, by simp⟩ hfull
  refine Triple.bind (put_blocked hfull₁ (blocked_start r.file) _) fun buf =>
    Triple.of_eq fun _ ⟨hb, hd⟩ => ?_
  refine Triple.bind ((put_blocked hfull₁ hb _).weaken fun d h => h.trans hd) fun buf =>
    Triple.of_eq fun _ ⟨hb, hd⟩ => ?_
  -- both ways on, through the failure of a write or through the items, meet blocked
  let R := fun (res : Files.Buffer × List Zip.Item × Option Zip.Item × Option Failure) d =>
    (∃ S', Blocked r.file S' res.1) ∧ d = d₁
  dsimp only
  split
  on_goal 1 =>
    refine Triple.bind (Q := R) (Triple.pure fun d h => ⟨⟨_, hb⟩, h.trans hd⟩) fun res => ?_
  on_goal 2 =>
    refine Triple.bind (Q := R)
      ((addAll_blocked hfull₁ r.items _ _ _ _ hb).weaken fun d h => h.trans hd) fun res => ?_
  all_goals
    obtain ⟨buf, added, last, failure⟩ := res
    refine Triple.of_eq fun _ ⟨⟨S', hb'⟩, hd'⟩ => ?_
    refine Triple.bind ((put_blocked hfull₁ hb' _).weaken fun d h => h.trans hd') fun buf =>
      Triple.of_eq fun _ ⟨hb'', hd''⟩ => ?_
    -- the closing write is never empty, so the flush has something to send
    have hS : S' ++ Zip.closing added last ≠ [] := by simp [Zip.closing_ne_nil]
    refine Triple.bind ((flush_blocked hfull₁ hb'' hS).weaken fun d h => h.trans hd'')
      fun buf => Triple.of_eq fun _ ⟨hfailed, hd'''⟩ => ?_
    -- the flush failed, so a failure is reported whatever came before
    obtain ⟨e, he⟩ := Option.isSome_iff_exists.1 hfailed
    rw [he]
    cases failure <;> exact Triple.pure fun d h => ⟨rfl, by rw [h, hd''', hn]⟩

/-- What a report keeps of a run. -/
theorem close_keeps_every_call {cwd file k c : Bytes} {cs : List Call} {d₀ : Disk}
    (hcalls : ∀ i (h : i < cs.length),
      cs[i].Calm (run cwd ⟨file, []⟩ (cs.take i)) ∧ cs[i].Plain (run cwd ⟨file, []⟩ (cs.take i)))
    (hp : d₀.resolve file true = .ok ⟨k, some (.file c)⟩)
    (hapart : ∀ i (h : i < cs.length), (cs[i].item cwd).Apart d₀ k) :
    performAll cwd ⟨file, []⟩ cs = .ok (run cwd ⟨file, []⟩ cs) ∧
      Kept cwd file cs (run cwd ⟨file, []⟩ cs).items ∧
      Triple (· = d₀) (run cwd ⟨file, []⟩ cs).close fun res d => res = none ∧
        d₀.Grown k c (Zip.archive ((run cwd ⟨file, []⟩ cs).manifestMember
          ((run cwd ⟨file, []⟩ cs).closeTimes d₀).1 ((run cwd ⟨file, []⟩ cs).closeTimes d₀).2 ::
          members d₀ (run cwd ⟨file, []⟩ cs).items)) d := by
  have hkept := kept_run cs hcalls
  refine ⟨performAll_of_calm cs fun i hi => (hcalls i hi).1, hkept,
    close_writes_archive (by rwa [run_file]) fun e he => ?_⟩
  obtain ⟨i, hi, rfl⟩ := hkept.made e he
  exact hapart i hi

/-- Bytes kept twice under the name `t`, the second time under `t-6`: closing the report on a disk
whose file `/r` is empty reports no failure. -/
theorem close_keeps_data_kept_twice :
    (((run [47] ⟨[47, 114], []⟩ [.storeData [116] [1] 4 5, .storeData [116] [2] 6 7]).close :
      OnDisk (Option Failure)).run
        { nodes := [([47, 114], .file []), ([47], .dir)], workDir := [47], tempDir := [47] }).1 =
      none :=
  ((close_keeps_every_call (k := [47, 114]) (c := []) (by decide +kernel)
    (by
      have he : Path.elements [47, 114] = [[114]] := by decide
      simp only [Disk.resolve, he]
      simp +decide [Disk.walk, Disk.node?, Disk.child, Path.slash])
    fun i hi => by
      simp only [List.length_cons, List.length_nil] at hi
      interval_cases i <;> trivial).2.2 _ rfl).1

/-- A report of one table kept as bytes, whose file is the full device `/dev/full`: closing it
reports a failure, and every node of the disk stays as it was, so no archive is written. -/
theorem close_fails_on_dev_full :
    let r := run [47] ⟨[47, 100, 101, 118, 47, 102, 117, 108, 108], []⟩ [.storeData [116] [1] 4 5]
    let d : Disk := { nodes := [([47, 100, 101, 118, 47, 102, 117, 108, 108], .full),
      ([47, 100, 101, 118], .dir), ([47], .dir)], workDir := [47], tempDir := [47] }
    ((r.close : OnDisk (Option Failure)).run d).1.isSome ∧
      ((r.close : OnDisk (Option Failure)).run d).2.nodes = d.nodes :=
  close_on_full_device (k := [47, 100, 101, 118, 47, 102, 117, 108, 108])
    (by
      have he : Path.elements [47, 100, 101, 118, 47, 102, 117, 108, 108] =
          [[100, 101, 118], [102, 117, 108, 108]] := by decide
      simp only [run_file, Disk.resolve, he]
      simp +decide [Disk.walk, Disk.node?, Disk.child, Path.slash, List.lookup_cons]) _ rfl

end Report

end ResourceSymbols
