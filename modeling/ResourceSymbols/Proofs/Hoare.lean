import ResourceSymbols.Files.Host

namespace ResourceSymbols

theorem tryFinally_stateM {σ α β : Type} (x : StateM σ α) (h : StateM σ β) :
    tryFinally x h = x >>= fun a => h >>= fun _ => pure a := rfl

theorem StateM.bind_apply {σ α β : Type} (a : StateM σ α) (f : α → StateM σ β) (y : σ) :
    (a >>= f) y = f (a y).1 (a y).2 := rfl

theorem StateM.map_apply {σ α β : Type} (f : α → β) (a : StateM σ α) (y : σ) :
    (f <$> a) y = (f (a y).1, (a y).2) := rfl

/-- Started in a state satisfying `P`, the run `x` answers `a` and ends in a state `s` with `Q a
s`. -/
def Triple {σ α : Type} (P : σ → Prop) (x : StateM σ α) (Q : α → σ → Prop) : Prop :=
  ∀ s, P s → Q (x.run s).1 (x.run s).2

namespace Triple

variable {σ α β : Type} {P : σ → Prop} {Q R : α → σ → Prop} {x : StateM σ α}

theorem pure {a : α} (h : ∀ s, P s → Q a s) : Triple P (Pure.pure a : StateM σ α) Q := h

theorem bind {f : α → StateM σ β} {S : β → σ → Prop} (hx : Triple P x Q) (hf : ∀ a, Triple (Q a) (f a) S) :
    Triple P (x >>= f) S :=
  fun s hs => hf _ _ (hx s hs)

theorem conseq (h : Triple P x Q) (hq : ∀ a s, Q a s → R a s) : Triple P x R :=
  fun s hs => hq _ _ (h s hs)

theorem weaken {P' : σ → Prop} (h : Triple P x Q) (hp : ∀ s, P' s → P s) : Triple P' x Q :=
  fun s hs => h s (hp s hs)

theorem ite_bind {c : Prop} [Decidable c] {y : StateM σ α} {f : α → StateM σ β} {S : β → σ → Prop}
    (h : Triple P ((if c then x else y) >>= f) S) : Triple P (if c then x >>= f else y >>= f) S := by
  by_cases hc : c <;> simpa [hc] using h

theorem and (hq : Triple P x Q) (hr : Triple P x R) : Triple P x fun a s => Q a s ∧ R a s :=
  fun s hs => ⟨hq s hs, hr s hs⟩

theorem of_exists {ι : Sort _} {P : ι → σ → Prop} (h : ∀ i, Triple (P i) x Q) :
    Triple (fun s => ∃ i, P i s) x Q :=
  fun s ⟨i, hi⟩ => h i s hi

theorem of_prop {p : Prop} (h : p → Triple P x Q) : Triple (fun s => p ∧ P s) x Q :=
  fun s ⟨hp, hs⟩ => h hp s hs

theorem of_eq (h : ∀ s₁, P s₁ → Triple (· = s₁) x Q) : Triple P x Q :=
  fun s hs => h s hs s rfl

theorem at_state (h : Triple P x Q) {s₁ : σ} (hs : P s₁) : Triple (· = s₁) x Q :=
  fun _ hs' => hs' ▸ h s₁ hs

theorem change {f : σ → Except FsError σ} {Q : Except FsError Unit → σ → Prop}
    (h : ∀ s, P s → ∀ s', f s = .ok s' → Q (.ok ()) s')
    (herr : ∀ s, P s → ∀ e, f s = .error e → Q (.error e) s) : Triple P (StateM.change f) Q := by
  intro s hs
  cases hf : f s with
  | ok s' =>
    simp only [StateT.run, StateM.change, hf]
    exact h s hs s' hf
  | error e =>
    simp only [StateT.run, StateM.change, hf]
    exact herr s hs e hf

end Triple

/-- Started from a state `t` of its own and a host's state `s` with `P t s`, the run `x` answers
`a` and ends with `t'` and `s'` such that `Q a t' s'`. -/
def TripleT {S σ α : Type} (P : S → σ → Prop) (x : StateT S (StateM σ) α) (Q : α → S → σ → Prop) : Prop :=
  ∀ t s, P t s → Q ((x.run t).run s).1.1 ((x.run t).run s).1.2 ((x.run t).run s).2

namespace TripleT

variable {S σ α β : Type} {P : S → σ → Prop} {Q R : α → S → σ → Prop} {x : StateT S (StateM σ) α}

theorem pure {a : α} (h : ∀ t s, P t s → Q a t s) : TripleT P (Pure.pure a : StateT S (StateM σ) α) Q := h

theorem bind {f : α → StateT S (StateM σ) β} {R : β → S → σ → Prop} (hx : TripleT P x Q)
    (hf : ∀ a, TripleT (Q a) (f a) R) : TripleT P (x >>= f) R :=
  fun t s h => hf _ _ _ (hx t s h)

theorem conseq (h : TripleT P x Q) (hq : ∀ a t s, Q a t s → R a t s) : TripleT P x R :=
  fun t s hs => hq _ _ _ (h t s hs)

theorem weaken {P' : S → σ → Prop} (h : TripleT P x Q) (hp : ∀ t s, P' t s → P t s) : TripleT P' x Q :=
  fun t s hs => h t s (hp t s hs)

theorem of_prop {p : Prop} (h : p → TripleT P x Q) : TripleT (fun t s => p ∧ P t s) x Q :=
  fun t s hs => h hs.1 t s hs.2

theorem of_eq (h : ∀ t₁ s₁, P t₁ s₁ → TripleT (fun t s => t = t₁ ∧ s = s₁) x Q) : TripleT P x Q :=
  fun t s hs => h t s hs t s ⟨rfl, rfl⟩

theorem at_state (h : TripleT P x Q) {t₁ : S} {s₁ : σ} (hp : P t₁ s₁) :
    TripleT (fun t s => t = t₁ ∧ s = s₁) x Q := by
  rintro _ _ ⟨rfl, rfl⟩
  exact h _ _ hp

theorem lift {y : StateM σ α} {P' : σ → Prop} {Q' : α → σ → Prop} (h : Triple P' y Q') (t₀ : S) :
    TripleT (fun t s => t = t₀ ∧ P' s) (monadLift y : StateT S (StateM σ) α) fun a t s => t = t₀ ∧ Q' a s := by
  rintro t s ⟨rfl, hs⟩
  exact ⟨rfl, h s hs⟩

theorem run (h : TripleT P x Q) (t₀ : S) : Triple (P t₀) (x.run t₀) fun p s => Q p.1 p.2 s :=
  fun s hs => h t₀ s hs

theorem ask (f : σ → α) (hx : ∀ t s, (x.run t).run s = ((f s, t), s)) (t₀ : S) (s₀ : σ) :
    TripleT (fun t s => t = t₀ ∧ s = s₀) x fun a t s => a = f s₀ ∧ t = t₀ ∧ s = s₀ := by
  rintro _ _ ⟨rfl, rfl⟩
  rw [hx]
  exact ⟨rfl, rfl, rfl⟩

theorem ask_bind (f : σ → α) (hx : ∀ t s, (x.run t).run s = ((f s, t), s)) {g : α → StateT S (StateM σ) β}
    {R : β → S → σ → Prop} (h : ∀ t s, P t s → TripleT (fun t' s' => t' = t ∧ s' = s) (g (f s)) R) :
    TripleT P (x >>= g) R := by
  refine of_eq fun t s hp => bind (ask f hx t s) fun a => of_eq fun t' s' ha => ?_
  obtain ⟨rfl, rfl, rfl⟩ := ha
  exact h _ _ hp

theorem modify_at {f : S → S} {t₁ : S} {s₁ : σ} :
    TripleT (fun t s => t = t₁ ∧ s = s₁) (modify f : StateT S (StateM σ) PUnit) fun _ t s => t = f t₁ ∧ s = s₁ := by
  rintro _ _ ⟨rfl, rfl⟩
  exact ⟨rfl, rfl⟩

theorem forIn {xs : List β} {f : β → PUnit → StateT S (StateM σ) (ForInStep PUnit)}
    (I : List β → S → σ → Prop)
    (hf : ∀ pre b post, xs = pre ++ b :: post →
      TripleT (I pre) (f b ⟨⟩) fun r t s => r = .yield ⟨⟩ ∧ I (pre ++ [b]) t s) :
    TripleT (I []) (forIn xs ⟨⟩ f) fun _ t s => I xs t s := by
  -- the loop over what is left, after the elements `pre` were done
  suffices h : ∀ rest pre, xs = pre ++ rest → TripleT (I pre) (ForIn.forIn rest ⟨⟩ f) fun _ t s => I xs t s from
    h xs [] rfl
  intro rest
  induction rest with
  | nil =>
    intro pre hxs
    rw [List.append_nil] at hxs
    subst hxs
    exact pure fun _ _ h => h
  | cons b rest ih =>
    intro pre hxs
    rw [List.forIn_cons]
    refine bind (hf pre b rest hxs) fun r => ?_
    rcases r with ⟨⟩ | ⟨⟩
    · exact fun _ _ h => absurd h.1 (by simp)
    · exact (ih (pre ++ [b]) (by simp [hxs])).weaken fun _ _ h => h.2

theorem foldlM {xs : List β} {f : α → β → StateT S (StateM σ) α} {init : α}
    (I : List β → α → S → σ → Prop)
    (hf : ∀ pre b post a, xs = pre ++ b :: post → TripleT (I pre a) (f a b) fun a' t s => I (pre ++ [b]) a' t s) :
    TripleT (I [] init) (xs.foldlM f init) fun a t s => I xs a t s := by
  suffices h : ∀ rest pre a, xs = pre ++ rest → TripleT (I pre a) (rest.foldlM f a) fun a t s => I xs a t s from
    h xs [] init rfl
  intro rest
  induction rest with
  | nil =>
    intro pre a hxs
    rw [List.append_nil] at hxs
    subst hxs
    exact pure fun _ _ h => h
  | cons b rest ih =>
    intro pre a hxs
    rw [List.foldlM_cons]
    exact bind (hf pre b rest a hxs) fun a' => ih (pre ++ [b]) a' (by simp [hxs])

end TripleT

end ResourceSymbols
