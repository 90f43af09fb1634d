import Mathlib
import ResourceSymbols.Proofs.Builder
import ResourceSymbols.Proofs.Grammar

namespace ResourceSymbols

open Utf8

def clipLine (raw : Bytes) : Bytes := (raw.dropSuffix [13]).dropSuffix [13]

theorem Spells.isBlank_eq_false {line : Bytes} {s : Symbol} (h : Spells line s) :
    line.isBlank = false :=
  h.1.isBlank_eq_false

theorem Spells.unique {line : Bytes} {s s' : Symbol} (h : Spells line s) (h' : Spells line s') :
    s = s' := by
  have e : parseLine 0 line = .ok s := parseLine_eq_ok_of_spells h
  rw [parseLine_eq_ok_of_spells h', Except.ok.injEq] at e
  exact e.symm

theorem Refuses.not_spells {line : Bytes} {r : LineFault} (h : Refuses line r) {s : Symbol} :
    ¬Spells line s := by
  intro hs
  have e : ResourceSymbols.parseLine 0 line = .ok s := parseLine_eq_ok_of_spells hs
  rw [h.parseLine] at e
  cases e

theorem Refuses.unique {line : Bytes} {r r' : LineFault} (h : Refuses line r)
    (h' : Refuses line r') : r = r' := by
  have e : ResourceSymbols.parseLine 0 line = .error (.format 0 line r) := h.parseLine
  rw [h'.parseLine, Except.error.injEq, SymbolError.format.injEq] at e
  exact e.2.2.symm

/-- Lines read as symbols after symbols under the keys `taken`: the lines that are not blank spell
the symbols one by one, and the keys taken and then the symbols' keys are all distinct. -/
def ReadsAs (taken : List (Bytes × Bytes)) (lines : List Bytes) (syms : List Symbol) : Prop :=
  List.Forall₂ Spells (lines.filter fun l => !l.isBlank) syms ∧
    (taken ++ syms.map Symbol.key).Nodup

theorem ReadsAs.nodup_taken {taken : List (Bytes × Bytes)} {lines : List Bytes}
    {syms : List Symbol} (h : ReadsAs taken lines syms) : taken.Nodup :=
  h.2.of_append_left

theorem readsAs_nil {taken : List (Bytes × Bytes)} {syms : List Symbol} :
    ReadsAs taken [] syms ↔ syms = [] ∧ taken.Nodup := by
  constructor
  · rintro ⟨h, hnd⟩
    rw [List.filter_nil, List.forall₂_nil_left_iff] at h
    subst h
    exact ⟨rfl, by simpa using hnd⟩
  · rintro ⟨rfl, hnd⟩
    exact ⟨by simp, by simpa using hnd⟩

theorem readsAs_cons_blank {taken : List (Bytes × Bytes)} {line : Bytes} {lines : List Bytes}
    {syms : List Symbol} (hb : line.isBlank = true) :
    ReadsAs taken (line :: lines) syms ↔ ReadsAs taken lines syms := by
  simp [ReadsAs, hb]

theorem readsAs_cons_spells {taken : List (Bytes × Bytes)} {line : Bytes} {lines : List Bytes}
    {syms : List Symbol} {s : Symbol} (hs : Spells line s) :
    ReadsAs taken (line :: lines) syms ↔
      ∃ syms', syms = s :: syms' ∧ ReadsAs (taken ++ [s.key]) lines syms' := by
  simp only [ReadsAs, List.filter_cons, hs.isBlank_eq_false, Bool.not_false, if_true,
    List.forall₂_cons_left_iff]
  constructor
  · rintro ⟨⟨s', syms', hs', hL, rfl⟩, hnd⟩
    obtain rfl := hs.unique hs'
    exact ⟨syms', rfl, hL, by simpa using hnd⟩
  · rintro ⟨syms', rfl, hL, hnd⟩
    exact ⟨⟨s, syms', hs, hL, rfl⟩, by simpa using hnd⟩

theorem not_readsAs_cons_refuses {taken : List (Bytes × Bytes)} {line : Bytes}
    {lines : List Bytes} {syms : List Symbol} {r : LineFault} (hr : Refuses line r)
    (hb : line.isBlank = false) : ¬ReadsAs taken (line :: lines) syms := by
  simp only [ReadsAs, List.filter_cons, hb, Bool.not_false, if_true, List.forall₂_cons_left_iff]
  rintro ⟨⟨s, -, hs, -⟩, -⟩
  exact hr.not_spells hs

/-- Why reading stops at a line that is not blank, after symbols under the keys `taken`: the line
is no symbol, or it spells a symbol whose key is taken. -/
inductive Stops (taken : List (Bytes × Bytes)) (n : Nat) (line : Bytes) : Failure → Prop
  | refused {r : LineFault} (h : Refuses line r) : Stops taken n line (.symbol (.format n line r))
  | duplicate {s : Symbol} (h : Spells line s) (hk : s.key ∈ taken) :
      Stops taken n line (.within (Bytes.ofString "line " ++ Bytes.ofNat n ++ Bytes.ofString ": ")
        (.symbol (.duplicate s.cls s.name)))

/-- Reading lines numbered from `n` stops with `e`: the lines before some line that is not blank
read as symbols, and that line stops the reading. -/
def StopsAt (taken : List (Bytes × Bytes)) (n : Nat) (lines : List Bytes) (e : Failure) : Prop :=
  ∃ pre line post syms, lines = pre ++ line :: post ∧ ReadsAs taken pre syms ∧
    line.isBlank = false ∧ Stops (taken ++ syms.map Symbol.key) (n + pre.length) line e

theorem not_stopsAt_nil {taken : List (Bytes × Bytes)} {n : Nat} {e : Failure} :
    ¬StopsAt taken n [] e := by
  rintro ⟨pre, line, post, syms, h, -⟩
  simp at h

theorem stopsAt_cons {taken : List (Bytes × Bytes)} {n : Nat} {line : Bytes} {lines : List Bytes}
    {e : Failure} :
    StopsAt taken n (line :: lines) e ↔
      (taken.Nodup ∧ line.isBlank = false ∧ Stops taken n line e) ∨
      ∃ pre line' post syms, lines = pre ++ line' :: post ∧ ReadsAs taken (line :: pre) syms ∧
        line'.isBlank = false ∧
        Stops (taken ++ syms.map Symbol.key) (n + 1 + pre.length) line' e := by
  constructor
  · rintro ⟨pre, line', post, syms, h, hr, hb, hs⟩
    rcases List.cons_eq_append_iff.1 h with ⟨rfl, h'⟩ | ⟨pre', rfl, h'⟩
    · obtain ⟨rfl, rfl⟩ := List.cons.inj h'
      obtain ⟨rfl, hnd⟩ := readsAs_nil.1 hr
      exact .inl ⟨hnd, hb, by simpa using hs⟩
    · have hn : n + (line :: pre').length = n + 1 + pre'.length := by simp; omega
      exact .inr ⟨pre', line', post, syms, h', hr, hb, hn ▸ hs⟩
  · rintro (⟨hnd, hb, hs⟩ | ⟨pre, line', post, syms, rfl, hr, hb, hs⟩)
    · exact ⟨[], line, lines, [], rfl, readsAs_nil.2 ⟨rfl, hnd⟩, hb, by simpa using hs⟩
    · have hn : n + 1 + pre.length = n + (line :: pre).length := by simp; omega
      exact ⟨line :: pre, line', post, syms, rfl, hr, hb, hn ▸ hs⟩

theorem stopsAt_cons_blank {taken : List (Bytes × Bytes)} {n : Nat} {line : Bytes}
    {lines : List Bytes} {e : Failure} (hb : line.isBlank = true) :
    StopsAt taken n (line :: lines) e ↔ StopsAt taken (n + 1) lines e := by
  rw [stopsAt_cons]
  simp only [hb, Bool.true_eq_false, false_and, and_false, false_or, readsAs_cons_blank hb]
  rfl

theorem stopsAt_cons_refuses {taken : List (Bytes × Bytes)} {n : Nat} {line : Bytes}
    {lines : List Bytes} {e : Failure} {r : LineFault} (hb : line.isBlank = false)
    (hr : Refuses line r) (hnd : taken.Nodup) :
    StopsAt taken n (line :: lines) e ↔ e = .symbol (.format n line r) := by
  rw [stopsAt_cons]
  constructor
  · rintro (⟨-, -, hs⟩ | ⟨pre, line', post, syms, -, hR, -⟩)
    · cases hs with
      | refused h => rw [hr.unique h]
      | duplicate h => exact absurd h hr.not_spells
    · exact absurd hR (not_readsAs_cons_refuses hr hb)
  · rintro rfl
    exact .inl ⟨hnd, hb, .refused hr⟩

theorem stopsAt_cons_taken {taken : List (Bytes × Bytes)} {n : Nat} {line : Bytes}
    {lines : List Bytes} {e : Failure} {s : Symbol} (hs : Spells line s) (hk : s.key ∈ taken)
    (hnd : taken.Nodup) :
    StopsAt taken n (line :: lines) e ↔
      e = .within (Bytes.ofString "line " ++ Bytes.ofNat n ++ Bytes.ofString ": ")
        (.symbol (.duplicate s.cls s.name)) := by
  rw [stopsAt_cons]
  constructor
  · rintro (⟨-, -, hs'⟩ | ⟨pre, line', post, syms, -, hR, -⟩)
    · cases hs' with
      | refused h => exact absurd hs h.not_spells
      | duplicate h _ => rw [hs.unique h]
    · -- the key would be taken twice
      obtain ⟨syms', -, hR'⟩ := (readsAs_cons_spells hs).1 hR
      have := List.nodup_append.1 hR'.nodup_taken
      exact absurd rfl (this.2.2 _ hk _ (List.mem_singleton_self _))
  · rintro rfl
    exact .inl ⟨hnd, hs.isBlank_eq_false, .duplicate hs hk⟩

theorem stopsAt_cons_new {taken : List (Bytes × Bytes)} {n : Nat} {line : Bytes}
    {lines : List Bytes} {e : Failure} {s : Symbol} (hs : Spells line s) (hk : s.key ∉ taken) :
    StopsAt taken n (line :: lines) e ↔ StopsAt (taken ++ [s.key]) (n + 1) lines e := by
  rw [stopsAt_cons]
  constructor
  · rintro (⟨-, -, hs'⟩ | ⟨pre, line', post, syms, rfl, hR, hb, hst⟩)
    · cases hs' with
      | refused h => exact absurd hs h.not_spells
      | duplicate h hk' => exact absurd (hs.unique h ▸ hk') hk
    · obtain ⟨syms', rfl, hR'⟩ := (readsAs_cons_spells hs).1 hR
      exact ⟨pre, line', post, syms', rfl, hR', hb, by simpa using hst⟩
  · rintro ⟨pre, line', post, syms', rfl, hR', hb, hst⟩
    exact .inr ⟨pre, line', post, s :: syms', rfl, (readsAs_cons_spells hs).2 ⟨syms', rfl, hR'⟩,
      hb, by simpa using hst⟩

section Feed

variable {b : Builder} {n : Nat} {raw : Bytes} {rest : List Bytes}

theorem feedLines_blank (hfit : raw.length < maxLineLength) (hb : (clipLine raw).isBlank = true) :
    feedLines b n (raw :: rest) = feedLines b (n + 1) rest := by
  rw [feedLines, if_neg (by omega)]
  simp only [clipLine] at hb
  simp only [hb, if_true]

theorem feedLines_refused (hfit : raw.length < maxLineLength)
    (hb : (clipLine raw).isBlank = false) {r : LineFault} (hr : Refuses (clipLine raw) r) :
    feedLines b n (raw :: rest) = .error (.symbol (.format n (clipLine raw) r)) := by
  have hp : parseLine n (clipLine raw) = _ := hr.parseLine
  rw [feedLines, if_neg (by omega)]
  simp only [clipLine] at hb hp ⊢
  simp only [hb, Bool.false_eq_true, if_false, hp]

theorem feedLines_taken (hfit : raw.length < maxLineLength) {s : Symbol}
    (hs : Spells (clipLine raw) s) (hk : s.key ∈ b.accepted.map Symbol.key) :
    feedLines b n (raw :: rest) =
      .error (.within (Bytes.ofString "line " ++ Bytes.ofNat n ++ Bytes.ofString ": ")
        (.symbol (.duplicate s.cls s.name))) := by
  have hp : parseLine n (clipLine raw) = .ok s := parseLine_eq_ok_of_spells hs
  have hb := hs.isBlank_eq_false
  have hadd : b.add s = ({ b with firstError := b.firstError <|> some (.duplicate s.cls s.name) },
      some (.duplicate s.cls s.name)) := by
    rcases Builder.add_cases b s with ⟨f, hf, -⟩ | ⟨-, -, he⟩ | ⟨-, hk', -⟩
    · rw [Symbol.flaw?_eq_none_iff.2 hs.2] at hf
      cases hf
    · exact he
    · exact absurd hk hk'
  rw [feedLines, if_neg (by omega)]
  simp only [clipLine] at hb hp ⊢
  simp only [hb, Bool.false_eq_true, if_false, hp, hadd]

theorem feedLines_new (hfit : raw.length < maxLineLength) {s : Symbol}
    (hs : Spells (clipLine raw) s) (hk : s.key ∉ b.accepted.map Symbol.key) :
    feedLines b n (raw :: rest) = feedLines { b with accepted := s :: b.accepted } (n + 1) rest := by
  have hp : parseLine n (clipLine raw) = .ok s := parseLine_eq_ok_of_spells hs
  have hb := hs.isBlank_eq_false
  have hadd : b.add s = ({ b with accepted := s :: b.accepted }, none) := by
    rcases Builder.add_cases b s with ⟨f, hf, -⟩ | ⟨-, hk', -⟩ | ⟨-, -, he⟩
    · rw [Symbol.flaw?_eq_none_iff.2 hs.2] at hf
      cases hf
    · exact absurd hk' hk
    · exact he
  rw [feedLines, if_neg (by omega)]
  simp only [clipLine] at hb hp ⊢
  simp only [hb, Bool.false_eq_true, if_false, hp, hadd]

end Feed

theorem feedLines_eq_ok_iff {b : Builder} (hnd : (b.accepted.map Symbol.key).Nodup) {n : Nat}
    {ls : List Bytes} (hfit : ∀ raw ∈ ls, raw.length < maxLineLength) {b' : Builder} :
    feedLines b n ls = .ok b' ↔ ∃ syms, ReadsAs (b.accepted.map Symbol.key).reverse
      (ls.map clipLine) syms ∧ b' = { b with accepted := syms.reverse ++ b.accepted } := by
  induction ls generalizing b n with
  | nil =>
    simp only [feedLines, Except.ok.injEq, List.map_nil, readsAs_nil, List.nodup_reverse, hnd]
    constructor
    · rintro rfl
      exact ⟨[], ⟨rfl, trivial⟩, rfl⟩
    · rintro ⟨syms, ⟨rfl, -⟩, rfl⟩
      rfl
  | cons raw rest ih =>
    have hraw := hfit raw List.mem_cons_self
    have hrest : ∀ r ∈ rest, r.length < maxLineLength := fun r h => hfit r (List.mem_cons_of_mem _ h)
    rw [List.map_cons]
    by_cases hb : (clipLine raw).isBlank = true
    · rw [feedLines_blank hraw hb, ih hnd hrest]
      simp only [readsAs_cons_blank hb]
    rcases parseLine_cases n (clipLine raw) with ⟨s, hs, -⟩ | ⟨r, hr, -⟩
    · by_cases hk : s.key ∈ b.accepted.map Symbol.key
      · rw [feedLines_taken hraw hs hk]
        simp only [reduceCtorEq, false_iff, not_exists, not_and]
        intro syms hR _
        obtain ⟨syms', -, hR'⟩ := (readsAs_cons_spells hs).1 hR
        have := List.nodup_append.1 hR'.nodup_taken
        exact this.2.2 _ (List.mem_reverse.2 hk) _ (List.mem_singleton_self _) rfl
      · have hnd' : ((s :: b.accepted).map Symbol.key).Nodup := List.nodup_cons.2 ⟨hk, hnd⟩
        rw [feedLines_new hraw hs hk, ih hnd' hrest]
        simp only [readsAs_cons_spells hs, List.map_cons, List.reverse_cons]
        constructor
        · rintro ⟨syms', hR', rfl⟩
          exact ⟨s :: syms', ⟨syms', rfl, hR'⟩, by simp⟩
        · rintro ⟨_, ⟨syms', rfl, hR'⟩, rfl⟩
          exact ⟨syms', hR', by simp⟩
    · rw [feedLines_refused hraw (by simpa using hb) hr]
      simp only [reduceCtorEq, false_iff, not_exists, not_and]
      intro syms hR _
      exact not_readsAs_cons_refuses hr (by simpa using hb) hR

theorem feedLines_eq_error_iff {b : Builder} (hnd : (b.accepted.map Symbol.key).Nodup) {n : Nat}
    {ls : List Bytes} (hfit : ∀ raw ∈ ls, raw.length < maxLineLength) {e : Failure} :
    feedLines b n ls = .error e ↔
      StopsAt (b.accepted.map Symbol.key).reverse n (ls.map clipLine) e := by
  induction ls generalizing b n with
  | nil =>
    simp only [feedLines, reduceCtorEq, List.map_nil, false_iff]
    exact not_stopsAt_nil
  | cons raw rest ih =>
    have hraw := hfit raw List.mem_cons_self
    have hrest : ∀ r ∈ rest, r.length < maxLineLength := fun r h => hfit r (List.mem_cons_of_mem _ h)
    have hndr : (b.accepted.map Symbol.key).reverse.Nodup := List.nodup_reverse.2 hnd
    rw [List.map_cons]
    by_cases hb : (clipLine raw).isBlank = true
    · rw [feedLines_blank hraw hb, ih hnd hrest, stopsAt_cons_blank hb]
    rcases parseLine_cases n (clipLine raw) with ⟨s, hs, -⟩ | ⟨r, hr, -⟩
    · by_cases hk : s.key ∈ b.accepted.map Symbol.key
      · rw [feedLines_taken hraw hs hk, stopsAt_cons_taken hs (List.mem_reverse.2 hk) hndr,
          Except.error.injEq, eq_comm]
      · have hnd' : ((s :: b.accepted).map Symbol.key).Nodup := List.nodup_cons.2 ⟨hk, hnd⟩
        rw [feedLines_new hraw hs hk, ih hnd' hrest,
          stopsAt_cons_new hs (mt List.mem_reverse.1 hk)]
        simp
    · rw [feedLines_refused hraw (by simpa using hb) hr,
        stopsAt_cons_refuses (by simpa using hb) hr hndr, Except.error.injEq, eq_comm]

theorem eq_of_perm_of_pairwise_keyLt {l l' : List Symbol} (hp : l.Perm l')
    (hl : l.Pairwise fun a b => a.keyLt b) (hl' : l'.Pairwise fun a b => a.keyLt b) : l = l' :=
  hp.eq_of_pairwise (fun _ _ _ _ hab hba => absurd hba (by simp [Symbol.keyLt_asymm hab])) hl hl'

section Read

variable {opts : ReadOptions} {x : Bytes}

theorem read_eq_ok_of_readsAs (hfit : ∀ raw ∈ textLines x, raw.length < maxLineLength)
    {syms : List Symbol} (hR : ReadsAs [] ((textLines x).map clipLine) syms) :
    Table.read opts x = .ok ⟨if opts.name.isEmpty then defaultTableName else opts.name, opts.pkg,
      syms.reverse.mergeSort fun a b => a.keyLe b⟩ := by
  have hnd₀ : (((({} : Builder).setName opts.name).setPackage opts.pkg).accepted.map
      Symbol.key).Nodup := List.nodup_nil
  have hf := (@feedLines_eq_ok_iff _ hnd₀ 1 _ hfit _).2 ⟨syms, hR, rfl⟩
  simp only [Builder.setName, Builder.setPackage, List.append_nil] at hf
  simp only [Table.read, Builder.setName, Builder.setPackage, hf, bind, Except.bind, Builder.build]
  rfl

theorem read_eq_error_of_stopsAt (hfit : ∀ raw ∈ textLines x, raw.length < maxLineLength)
    {e : Failure} (hS : StopsAt [] 1 ((textLines x).map clipLine) e) :
    Table.read opts x = .error e := by
  have hnd₀ : (((({} : Builder).setName opts.name).setPackage opts.pkg).accepted.map
      Symbol.key).Nodup := List.nodup_nil
  have hf := (@feedLines_eq_error_iff _ hnd₀ 1 _ hfit e).2 hS
  simp only [Table.read, hf, bind, Except.bind]

theorem readsAs_or_stopsAt (opts : ReadOptions)
    (hfit : ∀ raw ∈ textLines x, raw.length < maxLineLength) :
    (∃ syms, ReadsAs [] ((textLines x).map clipLine) syms) ∨
      ∃ e, StopsAt [] 1 ((textLines x).map clipLine) e := by
  have hnd₀ : (((({} : Builder).setName opts.name).setPackage opts.pkg).accepted.map
      Symbol.key).Nodup := List.nodup_nil
  rcases hf : feedLines ((({} : Builder).setName opts.name).setPackage opts.pkg) 1 (textLines x)
    with e | b'
  · exact .inr ⟨e, (@feedLines_eq_error_iff _ hnd₀ 1 _ hfit e).1 hf⟩
  · obtain ⟨syms, hR, -⟩ := (@feedLines_eq_ok_iff _ hnd₀ 1 _ hfit b').1 hf
    exact .inl ⟨syms, hR⟩

end Read

/-- Reading symbol text succeeds exactly when the lines that are not blank spell symbols with
distinct keys, which the table then holds ordered by key. -/
theorem read_grammar (opts : ReadOptions) (x : Bytes)
    (hfit : ∀ raw ∈ textLines x, raw.length < maxLineLength) :
    (∀ u, Table.read opts x = .ok u ↔
      ∃ syms, List.Forall₂ Spells (((textLines x).map clipLine).filter fun l => !l.isBlank) syms ∧
        (syms.map Symbol.key).Nodup ∧
        u.name = (if opts.name.isEmpty then defaultTableName else opts.name) ∧ u.pkg = opts.pkg ∧
        u.symbols.Perm syms ∧ u.symbols.Pairwise fun a b => a.keyLt b) ∧
    (∀ e, Table.read opts x = .error e ↔
      ∃ pre line post syms, (textLines x).map clipLine = pre ++ line :: post ∧
        List.Forall₂ Spells (pre.filter fun l => !l.isBlank) syms ∧ (syms.map Symbol.key).Nodup ∧
        line.isBlank = false ∧ Stops (syms.map Symbol.key) (pre.length + 1) line e) := by
  have hstops : ∀ e, StopsAt [] 1 ((textLines x).map clipLine) e ↔
      ∃ pre line post syms, (textLines x).map clipLine = pre ++ line :: post ∧
        List.Forall₂ Spells (pre.filter fun l => !l.isBlank) syms ∧ (syms.map Symbol.key).Nodup ∧
        line.isBlank = false ∧ Stops (syms.map Symbol.key) (pre.length + 1) line e := by
    intro e
    simp only [StopsAt, ReadsAs, List.nil_append, Nat.add_comm 1, and_assoc]
  refine ⟨fun u => ⟨fun h => ?_, ?_⟩, fun e => ⟨fun h => ?_, fun h => ?_⟩⟩
  · rcases readsAs_or_stopsAt opts hfit with ⟨syms, hR⟩ | ⟨e, hS⟩
    · rw [read_eq_ok_of_readsAs hfit hR, Except.ok.injEq] at h
      subst h
      have hnd : (syms.map Symbol.key).Nodup := by simpa using hR.2
      obtain ⟨hperm, hpair⟩ :=
        @Builder.mergeSort_keyLe_sorted syms.reverse (by simpa [List.map_reverse] using hnd)
      exact ⟨syms, hR.1, hnd, rfl, rfl, hperm.trans (List.reverse_perm syms), hpair⟩
    · rw [read_eq_error_of_stopsAt hfit hS] at h
      cases h
  · -- the symbols the lines spell are the table's, in the one order by key
    rintro ⟨syms, hF, hnd, hname, hpkg, hperm, hpair⟩
    have hR : ReadsAs [] ((textLines x).map clipLine) syms := ⟨hF, by simpa using hnd⟩
    obtain ⟨hperm', hpair'⟩ :=
      @Builder.mergeSort_keyLe_sorted syms.reverse (by simpa [List.map_reverse] using hnd)
    have hsyms := eq_of_perm_of_pairwise_keyLt
      (hperm.trans (hperm'.trans (List.reverse_perm syms)).symm) hpair hpair'
    rw [read_eq_ok_of_readsAs hfit hR]
    obtain ⟨un, up, us⟩ := u
    simp only at hname hpkg hsyms
    rw [hname, hpkg, hsyms]
  · rcases readsAs_or_stopsAt opts hfit with ⟨syms, hR⟩ | ⟨e', hS⟩
    · rw [read_eq_ok_of_readsAs hfit hR] at h
      cases h
    · rw [read_eq_error_of_stopsAt hfit hS, Except.error.injEq] at h
      exact (hstops e).1 (h ▸ hS)
  · exact read_eq_error_of_stopsAt hfit ((hstops e).2 h)

/-- A text of two lines out of key order with a blank line between them: its lines fit, and it
reads as the two symbols in key order. -/
theorem read_grammar_unsorted_lines :
    let x := Bytes.ofString "int id b 0x2\n\nint attr a 0x1\n"
    (∀ raw ∈ textLines x, raw.length < maxLineLength) ∧
    (∀ u, Table.read {} x = .ok u ↔
      ∃ syms, List.Forall₂ Spells (((textLines x).map clipLine).filter fun l => !l.isBlank) syms ∧
        (syms.map Symbol.key).Nodup ∧
        u.name = (if ([] : Bytes).isEmpty then defaultTableName else []) ∧ u.pkg = [] ∧
        u.symbols.Perm syms ∧ u.symbols.Pairwise fun a b => a.keyLt b) ∧
    (∀ e, Table.read {} x = .error e ↔
      ∃ pre line post syms, (textLines x).map clipLine = pre ++ line :: post ∧
        List.Forall₂ Spells (pre.filter fun l => !l.isBlank) syms ∧ (syms.map Symbol.key).Nodup ∧
        line.isBlank = false ∧ Stops (syms.map Symbol.key) (pre.length + 1) line e) ∧
    Table.read {} x = .ok ⟨Bytes.ofString "R", [], [⟨.int, Bytes.ofString "attr", [97], Bytes.ofString "0x1"⟩,
      ⟨.int, Bytes.ofString "id", [98], Bytes.ofString "0x2"⟩]⟩ := by
  intro x
  have hfit : ∀ raw ∈ textLines x, raw.length < maxLineLength := by decide +kernel
  obtain ⟨hok, herr⟩ := read_grammar {} x hfit
  refine ⟨hfit, hok, herr, ?_⟩
  simp only [x]
  cbv

end ResourceSymbols
