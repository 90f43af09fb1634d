import Mathlib.Data.List.Nodup
import ResourceSymbols.Table.Basic

namespace ResourceSymbols

theorem Bytes.lt_iff_lt {a b : Bytes} : Bytes.lt a b = true ↔ a < b := by
  induction a generalizing b with
  | nil => cases b <;> simp [Bytes.lt]
  | cons x xs ih =>
    cases b with
    | nil => simp [Bytes.lt]
    | cons y ys => simp [Bytes.lt, List.cons_lt_cons_iff, ih]

theorem Bytes.lt_trichotomy (a b : Bytes) : a < b ∨ a = b ∨ b < a := by
  rcases List.le_total a b with h | h
  · rcases List.le_iff_lt_or_eq.1 h with h | h <;> simp [h]
  · rcases List.le_iff_lt_or_eq.1 h with h | h <;> simp [h]

namespace Symbol

theorem keyLt_iff {a b : Symbol} :
    keyLt a b = true ↔ a.cls < b.cls ∨ a.cls = b.cls ∧ a.name < b.name := by
  simp [keyLt, Bytes.lt_iff_lt]

theorem keyLt_asymm {a b : Symbol} (h : keyLt a b = true) : keyLt b a = false := by
  rw [← Bool.not_eq_true, keyLt_iff]
  rw [keyLt_iff] at h
  have := @List.lt_asymm UInt8 _ _ a.cls b.cls
  have := @List.lt_asymm UInt8 _ _ a.name b.name
  have := List.lt_irrefl a.cls
  grind

theorem keyLt_or_keyLt_of_keyLt {a b c : Symbol} (h : keyLt a c = true) :
    keyLt a b = true ∨ keyLt b c = true := by
  simp only [keyLt_iff] at h ⊢
  have htrans {x y z : Bytes} : x < y → y < z → x < z := List.lt_trans
  rcases Bytes.lt_trichotomy a.cls b.cls with hc | hc | hc <;>
    rcases Bytes.lt_trichotomy a.name b.name with hn | hn | hn <;> grind

theorem keyLe_total (a b : Symbol) : (keyLe a b || keyLe b a) = true := by
  cases h : keyLt a b with
  | true => simp [keyLe, h, keyLt_asymm h]
  | false => simp [keyLe, h]

theorem keyLe_trans {a b c : Symbol} (hab : keyLe a b = true) (hbc : keyLe b c = true) :
    keyLe a c = true := by
  simp only [keyLe, Bool.not_eq_true'] at hab hbc ⊢
  cases h : keyLt c a with
  | false => rfl
  | true =>
    rcases @keyLt_or_keyLt_of_keyLt c b a h with h' | h' <;> simp_all

theorem key_eq_of_keyLe {a b : Symbol} (hab : keyLe a b = true) (hba : keyLe b a = true) :
    a.key = b.key := by
  simp only [keyLe, Bool.not_eq_true', ← Bool.not_eq_true, keyLt_iff] at hab hba
  rcases Bytes.lt_trichotomy a.cls b.cls with hc | hc | hc
  · exact absurd (.inl hc) hba
  · rcases Bytes.lt_trichotomy a.name b.name with hn | hn | hn
    · exact absurd (.inr ⟨hc, hn⟩) hba
    · simp [key, hc, hn]
    · exact absurd (.inr ⟨hc.symm, hn⟩) hab
  · exact absurd (.inl hc) hab

theorem pairwise_keyLt_of_keyLe {l : List Symbol} (hs : l.Pairwise fun a b => keyLe a b)
    (hk : (l.map key).Nodup) : l.Pairwise fun a b => keyLt a b := by
  induction l with
  | nil => exact .nil
  | cons a l ih =>
    rw [List.pairwise_cons] at hs ⊢
    rw [List.map_cons, List.nodup_cons] at hk
    refine ⟨fun b hb => ?_, ih hs.2 hk.2⟩
    cases h : keyLt a b with
    | true => rfl
    | false =>
      have hba : keyLe b a = true := by simp [keyLe, h]
      exact absurd (key_eq_of_keyLe (hs.1 b hb) hba ▸ List.mem_map_of_mem hb) hk.1

end Symbol

namespace Builder

/-- What a builder made by its own operations keeps: the accepted symbols have no flaw and no two
of them share a key. -/
structure Sound (b : Builder) : Prop where
  flawless : ∀ s ∈ b.accepted, s.flaw? = none
  nodup : (b.accepted.map Symbol.key).Nodup

theorem sound_new : Sound {} := ⟨by simp, by simp⟩

theorem any_key_iff (b : Builder) (s : Symbol) :
    (b.accepted.any fun t => t.cls == s.cls && t.name == s.name) = true ↔
      s.key ∈ b.accepted.map Symbol.key := by
  simp [Symbol.key]

theorem add_cases (b : Builder) (s : Symbol) :
    (∃ f, s.flaw? = some f ∧ b.add s =
        ({ b with firstError := b.firstError <|> some (.invalid s f) }, some (.invalid s f))) ∨
    (s.flaw? = none ∧ s.key ∈ b.accepted.map Symbol.key ∧ b.add s =
        ({ b with firstError := b.firstError <|> some (.duplicate s.cls s.name) },
          some (.duplicate s.cls s.name))) ∨
    (s.flaw? = none ∧ s.key ∉ b.accepted.map Symbol.key ∧
      b.add s = ({ b with accepted := s :: b.accepted }, none)) := by
  cases hf : s.flaw? with
  | some f => exact .inl ⟨f, rfl, by simp [add, hf, refuse]⟩
  | none =>
    by_cases hk : s.key ∈ b.accepted.map Symbol.key
    · have hany := (any_key_iff b s).2 hk
      exact .inr (.inl ⟨rfl, hk, by simp only [add, hf, hany, if_true, refuse]⟩)
    · have hany : (b.accepted.any fun t => t.cls == s.cls && t.name == s.name) = false := by
        simpa [← any_key_iff] using hk
      exact .inr (.inr ⟨rfl, hk, by simp only [add, hf, hany, Bool.false_eq_true, if_false]⟩)

theorem add_answer (b : Builder) (s : Symbol) :
    (b.add s).2 = match s.flaw? with
      | some f => some (.invalid s f)
      | none => if s.key ∈ b.accepted.map Symbol.key then some (.duplicate s.cls s.name) else none := by
  rcases add_cases b s with ⟨f, hf, he⟩ | ⟨hf, hk, he⟩ | ⟨hf, hk, he⟩
  · simp [he, hf]
  all_goals simp [he, hf, hk]

theorem add_accepted (b : Builder) (s : Symbol) :
    (b.add s).1.accepted = if (b.add s).2.isNone then s :: b.accepted else b.accepted := by
  rcases add_cases b s with ⟨f, hf, he⟩ | ⟨hf, hk, he⟩ | ⟨hf, hk, he⟩ <;> simp [he]

theorem add_firstError (b : Builder) (s : Symbol) :
    (b.add s).1.firstError = (b.firstError <|> (b.add s).2) := by
  rcases add_cases b s with ⟨f, hf, he⟩ | ⟨hf, hk, he⟩ | ⟨hf, hk, he⟩ <;> simp [he]

@[simp] theorem add_name (b : Builder) (s : Symbol) : (b.add s).1.name = b.name := by
  rcases add_cases b s with ⟨f, hf, he⟩ | ⟨hf, hk, he⟩ | ⟨hf, hk, he⟩ <;> simp [he]

@[simp] theorem add_pkg (b : Builder) (s : Symbol) : (b.add s).1.pkg = b.pkg := by
  rcases add_cases b s with ⟨f, hf, he⟩ | ⟨hf, hk, he⟩ | ⟨hf, hk, he⟩ <;> simp [he]

theorem Sound.add {b : Builder} (h : b.Sound) (s : Symbol) : (b.add s).1.Sound := by
  rcases add_cases b s with ⟨f, hf, he⟩ | ⟨hf, hk, he⟩ | ⟨hf, hk, he⟩
  · rw [he]; exact ⟨h.flawless, h.nodup⟩
  · rw [he]; exact ⟨h.flawless, h.nodup⟩
  · rw [he]
    refine ⟨fun t ht => ?_, ?_⟩
    · rcases List.mem_cons.1 ht with rfl | ht
      exacts [hf, h.flawless t ht]
    · exact List.nodup_cons.2 ⟨hk, h.nodup⟩

def accepts (os : List (Symbol × Option SymbolError)) : List Symbol :=
  os.filterMap fun o => if o.2.isNone then some o.1 else none

def firstRefusal (os : List (Symbol × Option SymbolError)) : Option SymbolError :=
  os.findSome? (·.2)

@[simp] theorem accepts_append (os os' : List (Symbol × Option SymbolError)) :
    accepts (os ++ os') = accepts os ++ accepts os' := List.filterMap_append

@[simp] theorem accepts_cons (s : Symbol) (r : Option SymbolError) (os : List (Symbol × Option SymbolError)) :
    accepts ((s, r) :: os) = if r.isNone then s :: accepts os else accepts os := by
  cases r <;> simp [accepts]

@[simp] theorem firstRefusal_cons (s : Symbol) (r : Option SymbolError)
    (os : List (Symbol × Option SymbolError)) :
    firstRefusal ((s, r) :: os) = (r <|> firstRefusal os) := by
  cases r <;> simp [firstRefusal]

@[simp] theorem accepts_nil : accepts [] = [] := rfl

@[simp] theorem firstRefusal_nil : firstRefusal [] = none := rfl

@[simp] theorem firstRefusal_append (os os' : List (Symbol × Option SymbolError)) :
    firstRefusal (os ++ os') = (firstRefusal os <|> firstRefusal os') := by
  simp only [firstRefusal, List.findSome?_append]
  cases os.findSome? (·.2) <;> rfl

def addAllOffers (b : Builder) : List Symbol → List (Symbol × Option SymbolError)
  | [] => []
  | s :: rest =>
    match b.add s with
    | (b', none) => (s, none) :: b'.addAllOffers rest
    | (_, some e) => [(s, some e)]

def offerEach (b : Builder) : List Symbol → Builder
  | [] => b
  | s :: rest => (b.add s).1.offerEach rest

theorem addAll_eq (b : Builder) (xs : List Symbol) :
    b.addAll xs = (b.offerEach ((b.addAllOffers xs).map Prod.fst), firstRefusal (b.addAllOffers xs)) := by
  induction xs generalizing b with
  | nil => rfl
  | cons s rest ih =>
    rcases h : b.add s with ⟨b', _ | e⟩
    · simp [addAll, addAllOffers, offerEach, h, ih, firstRefusal]
    · simp [addAll, addAllOffers, offerEach, h, firstRefusal]

theorem addAllOffers_prefix (b : Builder) (xs : List Symbol) :
    (b.addAllOffers xs).map Prod.fst <+: xs := by
  induction xs generalizing b with
  | nil => simp [addAllOffers]
  | cons s rest ih =>
    rcases h : b.add s with ⟨b', _ | e⟩
    · simpa [addAllOffers, h] using ih b'
    · simp [addAllOffers, h]

theorem addAllOffers_refusal (b : Builder) (xs : List Symbol) :
    (∀ o ∈ (b.addAllOffers xs).dropLast, o.2 = none) ∧
      (firstRefusal (b.addAllOffers xs) = none → (b.addAllOffers xs).length = xs.length) := by
  induction xs generalizing b with
  | nil => simp [addAllOffers]
  | cons s rest ih =>
    rcases h : b.add s with ⟨b', _ | e⟩
    · obtain ⟨ih₁, ih₂⟩ := ih b'
      simp only [addAllOffers, h, List.length_cons]
      refine ⟨fun o ho => ?_, fun hr => ?_⟩
      · cases hx : b'.addAllOffers rest with
        | nil => simp [hx] at ho
        | cons x xs =>
          rw [hx, List.dropLast_cons_cons, List.mem_cons] at ho
          rcases ho with rfl | ho
          exacts [rfl, ih₁ o (hx ▸ ho)]
      · simp [firstRefusal] at hr
        rw [ih₂ (by simpa [firstRefusal] using hr)]
    · simp [addAllOffers, h, firstRefusal]

theorem addAll_accepted (b : Builder) (xs : List Symbol) :
    (b.addAll xs).1.accepted = (accepts (b.addAllOffers xs)).reverse ++ b.accepted := by
  induction xs generalizing b with
  | nil => simp [addAll, addAllOffers]
  | cons s rest ih =>
    rcases h : b.add s with ⟨b', _ | e⟩
    · have hs : b'.accepted = s :: b.accepted := by simpa [h] using add_accepted b s
      simp [addAll, addAllOffers, h, ih, hs]
    · have hs : b'.accepted = b.accepted := by simpa [h] using add_accepted b s
      simp [addAll, addAllOffers, h, hs]

theorem addAll_firstError (b : Builder) (xs : List Symbol) :
    (b.addAll xs).1.firstError = (b.firstError <|> firstRefusal (b.addAllOffers xs)) := by
  induction xs generalizing b with
  | nil => simp [addAll, addAllOffers]
  | cons s rest ih =>
    rcases h : b.add s with ⟨b', r⟩
    have hs : b'.firstError = (b.firstError <|> r) := by simpa [h] using add_firstError b s
    cases r with
    | none => simp [addAll, addAllOffers, h, ih, hs]
    | some e => simp [addAll, addAllOffers, h, hs]

@[simp] theorem addAll_name (b : Builder) (xs : List Symbol) : (b.addAll xs).1.name = b.name := by
  induction xs generalizing b with
  | nil => rfl
  | cons s rest ih =>
    rcases h : b.add s with ⟨b', r⟩
    have hs : b'.name = b.name := by simpa [h] using add_name b s
    cases r <;> simp [addAll, h, ih, hs]

@[simp] theorem addAll_pkg (b : Builder) (xs : List Symbol) : (b.addAll xs).1.pkg = b.pkg := by
  induction xs generalizing b with
  | nil => rfl
  | cons s rest ih =>
    rcases h : b.add s with ⟨b', r⟩
    have hs : b'.pkg = b.pkg := by simpa [h] using add_pkg b s
    cases r <;> simp [addAll, h, ih, hs]

theorem Sound.addAll {b : Builder} (h : b.Sound) (xs : List Symbol) : (b.addAll xs).1.Sound := by
  induction xs generalizing b with
  | nil => exact h
  | cons s rest ih =>
    rcases he : b.add s with ⟨b', r⟩
    have hs : b'.Sound := by simpa [he] using h.add s
    cases r with
    | none => simpa [Builder.addAll, he] using ih hs
    | some e => simpa [Builder.addAll, he] using hs

/-- A call made on a builder, as its user makes them. -/
inductive Call
  | tableName (name : Bytes)
  | tablePackage (pkg : Bytes)
  | add (s : Symbol)
  | addAll (xs : List Symbol)
  | build
  | mustBuild

/-- What a call gives back: the builder itself for chaining, the answer to an offer, the result of
a build, or the refusal that a `mustBuild` panics with. -/
inductive Answer
  | chained
  | offered (r : Option SymbolError)
  | built (r : Except SymbolError Table)
  | panicked (e : SymbolError)

/-- One call: the builder after it, and its answer. -/
def call (b : Builder) : Call → Builder × Answer
  | .tableName n => (b.setName n, .chained)
  | .tablePackage p => (b.setPackage p, .chained)
  | .add s => ((b.add s).1, .offered (b.add s).2)
  | .addAll xs => ((b.addAll xs).1, .offered (b.addAll xs).2)
  | .build => (b, .built b.build)
  | .mustBuild =>
    match b.build with
    | .ok t => (b, .built (.ok t))
    | .error e => (b, .panicked e)

/-- Calls made one after another: the builder at the end, and the answers in order. -/
def run (b : Builder) : List Call → Builder × List Answer
  | [] => (b, [])
  | c :: cs => (((b.call c).1.run cs).1, (b.call c).2 :: ((b.call c).1.run cs).2)

def offers (b : Builder) : Call → List (Symbol × Option SymbolError)
  | .add s => [(s, (b.add s).2)]
  | .addAll xs => b.addAllOffers xs
  | _ => []

def history (b : Builder) : List Call → List (Symbol × Option SymbolError)
  | [] => []
  | c :: cs => b.offers c ++ (b.call c).1.history cs

def lastName : List Call → Option Bytes
  | [] => none
  | .tableName n :: cs => lastName cs <|> some n
  | _ :: cs => lastName cs

def lastPackage : List Call → Option Bytes
  | [] => none
  | .tablePackage p :: cs => lastPackage cs <|> some p
  | _ :: cs => lastPackage cs

@[simp] theorem call_mustBuild_builder (b : Builder) : (b.call .mustBuild).1 = b := by
  cases h : b.build <;> simp [call, h]

theorem call_accepted (b : Builder) (c : Call) :
    (b.call c).1.accepted = (accepts (b.offers c)).reverse ++ b.accepted := by
  cases c with
  | add s =>
    rw [call, offers, add_accepted]
    cases (b.add s).2 <;> simp
  | addAll xs => exact addAll_accepted b xs
  | mustBuild => simp [offers]
  | _ => simp [call, offers, setName, setPackage]

theorem call_firstError (b : Builder) (c : Call) :
    (b.call c).1.firstError = (b.firstError <|> firstRefusal (b.offers c)) := by
  cases c with
  | add s => simp [call, offers, add_firstError]
  | addAll xs => exact addAll_firstError b xs
  | mustBuild => cases h : b.firstError <;> simp [offers, h]
  | _ => cases h : b.firstError <;> simp [call, offers, setName, setPackage, h]

theorem Sound.call {b : Builder} (h : b.Sound) (c : Call) : (b.call c).1.Sound := by
  cases c with
  | add s => exact h.add s
  | addAll xs => exact h.addAll xs
  | mustBuild => simpa using h
  | _ => exact ⟨h.flawless, h.nodup⟩

theorem run_append (b : Builder) (cs ds : List Call) :
    b.run (cs ++ ds) = ((b.run cs).1.run ds |>.1, (b.run cs).2 ++ ((b.run cs).1.run ds).2) := by
  induction cs generalizing b with
  | nil => rfl
  | cons c cs ih => simp [run, ih]

theorem run_accepted (b : Builder) (cs : List Call) :
    (b.run cs).1.accepted = (accepts (b.history cs)).reverse ++ b.accepted := by
  induction cs generalizing b with
  | nil => simp [run, history]
  | cons c cs ih => simp [run, history, ih, call_accepted]

theorem run_firstError (b : Builder) (cs : List Call) :
    (b.run cs).1.firstError = (b.firstError <|> firstRefusal (b.history cs)) := by
  induction cs generalizing b with
  | nil => cases h : b.firstError <;> simp [run, history, h]
  | cons c cs ih =>
    simp only [run, history, ih, call_firstError, firstRefusal_append]
    cases b.firstError <;> cases firstRefusal (b.offers c) <;> rfl

theorem run_name (b : Builder) (cs : List Call) : (b.run cs).1.name = (lastName cs).getD b.name := by
  induction cs generalizing b with
  | nil => rfl
  | cons c cs ih =>
    rw [run, ih]
    cases c with
    | mustBuild => simp [lastName]
    | _ => cases h : lastName cs <;> simp [call, lastName, setName, setPackage, h]

theorem run_pkg (b : Builder) (cs : List Call) : (b.run cs).1.pkg = (lastPackage cs).getD b.pkg := by
  induction cs generalizing b with
  | nil => rfl
  | cons c cs ih =>
    rw [run, ih]
    cases c with
    | mustBuild => simp [lastPackage]
    | _ => cases h : lastPackage cs <;> simp [call, lastPackage, setName, setPackage, h]

theorem Sound.run {b : Builder} (h : b.Sound) (cs : List Call) : (b.run cs).1.Sound := by
  induction cs generalizing b with
  | nil => exact h
  | cons c cs ih => exact ih (h.call c)

theorem run_addAllOffers (b : Builder) (xs : List Symbol) :
    b.run ((b.addAllOffers xs).map fun o => .add o.1) =
      ((b.addAll xs).1, (b.addAllOffers xs).map fun o => .offered o.2) := by
  induction xs generalizing b with
  | nil => rfl
  | cons s rest ih =>
    rcases h : b.add s with ⟨b', _ | e⟩
    · simp [addAllOffers, addAll, h, run, call, ih]
    · simp [addAllOffers, addAll, h, run, call]

theorem pairwise_mergeSort_keyLe (l : List Symbol) :
    (l.mergeSort fun x y => x.keyLe y).Pairwise fun x y => x.keyLe y :=
  @List.pairwise_mergeSort Symbol (fun x y => x.keyLe y) (fun _ _ _ => Symbol.keyLe_trans)
    Symbol.keyLe_total l

theorem mergeSort_keyLe_sorted {l : List Symbol} (hk : (l.map Symbol.key).Nodup) :
    (l.mergeSort fun x y => x.keyLe y).Perm l ∧
      (l.mergeSort fun x y => x.keyLe y).Pairwise fun x y => x.keyLt y := by
  have hperm := List.mergeSort_perm l fun x y => x.keyLe y
  exact ⟨hperm, Symbol.pairwise_keyLt_of_keyLe (pairwise_mergeSort_keyLe l)
    ((hperm.map Symbol.key).nodup_iff.2 hk)⟩

theorem Sound.build_symbols {b : Builder} (h : b.Sound) {t : Table} (ht : b.build = .ok t) :
    t.symbols.Perm b.accepted ∧ t.symbols.Pairwise fun x y => x.keyLt y := by
  cases he : b.firstError with
  | some e => simp [build, he] at ht
  | none =>
    simp only [build, he, Except.ok.injEq] at ht
    subst ht
    exact mergeSort_keyLe_sorted h.nodup

theorem mergeSort_keyLe_eq {l l' : List Symbol} (hp : l.Perm l')
    (hs : l'.Pairwise fun x y => x.keyLe y) (hk : (l.map Symbol.key).Nodup) :
    l.mergeSort (fun x y => x.keyLe y) = l' := by
  have hperm := (List.mergeSort_perm l fun x y => x.keyLe y).trans hp
  refine hperm.eq_of_pairwise (fun a b ha _ hab hba => ?_) (pairwise_mergeSort_keyLe l) hs
  have hka := Symbol.key_eq_of_keyLe hab hba
  have ha' : a ∈ l := (List.mergeSort_perm l _).mem_iff.1 ha
  have hb' : b ∈ l := hp.mem_iff.2 ‹b ∈ l'›
  exact List.inj_on_of_nodup_map hk ha' hb' hka

def builtName (cs : List Call) : Bytes :=
  match lastName cs with
  | some n => if n.isEmpty then defaultTableName else n
  | none => defaultTableName

theorem build_of_run (cs : List Call) :
    match firstRefusal (history {} cs) with
    | some e => (run {} cs).1.build = .error e ∧ ((run {} cs).1.call .mustBuild).2 = .panicked e
    | none => ∃ t, (run {} cs).1.build = .ok t ∧ ((run {} cs).1.call .mustBuild).2 = .built (.ok t) ∧
        t.name = builtName cs ∧ t.pkg = (lastPackage cs).getD [] ∧
        t.symbols.Perm (run {} cs).1.accepted ∧ t.symbols.Pairwise fun x y => x.keyLt y := by
  have hfe : (run {} cs).1.firstError = firstRefusal (history {} cs) := by
    rw [run_firstError]
    rfl
  have hsound := sound_new.run cs
  have hname := run_name {} cs
  have hpkg := run_pkg {} cs
  generalize (run {} cs).1 = b at hfe hsound hname hpkg ⊢
  split
  · rename_i e he
    have hb : b.build = .error e := by simp [build, hfe, he]
    exact ⟨hb, by simp [call, hb]⟩
  · rename_i he
    cases hb : b.build with
    | error e => simp [build, hfe, he] at hb
    | ok t =>
      have ht := hb
      simp only [build, hfe, he, Except.ok.injEq] at ht
      subst ht
      refine ⟨_, rfl, by simp [call, hb], ?_, by simp [hpkg], hsound.build_symbols hb⟩
      simp only [hname, builtName]
      cases lastName cs <;> simp

/-- The builder's contract over every sequence of calls on a new builder: what it holds, why it
refuses, what a build gives, and that later calls never change the answers already given. -/
theorem run_contract (cs : List Call) :
    ((run {} cs).1.accepted = (accepts (history {} cs)).reverse ∧ (run {} cs).1.Sound) ∧
    (∀ s, ((run {} cs).1.add s).2 = (match s.flaw? with
        | some f => some (.invalid s f)
        | none =>
          if s.key ∈ (run {} cs).1.accepted.map Symbol.key then some (.duplicate s.cls s.name)
          else none) ∧
      (((run {} cs).1.add s).2.isSome → ((run {} cs).1.add s).1.accepted = (run {} cs).1.accepted)) ∧
    (∀ xs, (run {} cs).1.run (((run {} cs).1.addAllOffers xs).map fun o => .add o.1) =
        (((run {} cs).1.addAll xs).1, ((run {} cs).1.addAllOffers xs).map fun o => .offered o.2) ∧
      ((run {} cs).1.addAll xs).2 = firstRefusal ((run {} cs).1.addAllOffers xs) ∧
      ((run {} cs).1.addAllOffers xs).map Prod.fst <+: xs ∧
      (∀ o ∈ ((run {} cs).1.addAllOffers xs).dropLast, o.2 = none) ∧
      (firstRefusal ((run {} cs).1.addAllOffers xs) = none →
        ((run {} cs).1.addAllOffers xs).length = xs.length)) ∧
    (match firstRefusal (history {} cs) with
      | some e => (run {} cs).1.build = .error e ∧ ((run {} cs).1.call .mustBuild).2 = .panicked e
      | none => ∃ t, (run {} cs).1.build = .ok t ∧ ((run {} cs).1.call .mustBuild).2 = .built (.ok t) ∧
          t.name = builtName cs ∧ t.pkg = (lastPackage cs).getD [] ∧
          t.symbols.Perm (run {} cs).1.accepted ∧ t.symbols.Pairwise fun x y => x.keyLt y) ∧
    (∀ ds, (run {} (cs ++ ds)).2 = (run {} cs).2 ++ ((run {} cs).1.run ds).2) := by
  refine ⟨⟨by simp [run_accepted], sound_new.run cs⟩, fun s => ⟨add_answer _ s, fun h => ?_⟩,
    fun xs => ⟨run_addAllOffers _ xs, by rw [addAll_eq], addAllOffers_prefix _ xs,
      addAllOffers_refusal _ xs⟩, build_of_run cs, fun ds => by rw [run_append]⟩
  rw [add_accepted]
  simp [Option.isSome_iff_ne_none.1 h]

end Builder

end ResourceSymbols
