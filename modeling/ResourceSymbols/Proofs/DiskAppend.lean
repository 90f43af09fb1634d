import ResourceSymbols.Proofs.Tree
import ResourceSymbols.Files.Disk

namespace ResourceSymbols

/-- A node a walk stops at: neither a directory to walk through nor a link to follow. -/
def Node.Terminal (n : Node) : Prop := n ≠ .dir ∧ ∀ t, n ≠ .link t

theorem Node.terminal_file (b : Bytes) : (Node.file b).Terminal := ⟨by simp, by simp⟩

namespace Disk

deriving instance DecidableEq for Place

def Place.retouch (k : Bytes) (n : Node) (pl : Place) : Place :=
  if pl.name = k then ⟨k, some n⟩ else pl

theorem node?_put (d : Disk) (k x : Bytes) (n : Node) :
    (d.put k n).node? x = if x = k then some n else d.node? x := by
  by_cases h : x = k
  · subst h
    simp [put, node?]
  · have hne : (x == k) = false := by simpa using h
    simp only [put, node?, List.lookup_cons, hne, if_neg h]
    exact Memory.lookup_filter (Q := fun y => y != k) (by simpa using h)

theorem node?_write (d : Disk) (k x b : Bytes) :
    (d.write k b).node? x = if x = k then some (.file b) else d.node? x :=
  node?_put d k x _

theorem walk_node {d : Disk} {follow : Bool} {fuel : Nat} {cur : Bytes} {els : List Bytes}
    {pl : Place} (h : d.walk follow fuel cur els = .ok pl) : pl.node = d.node? pl.name := by
  fun_induction d.walk follow fuel cur els with
  | case1 => cases h; rfl
  | case2 _ _ _ _ _ ih | case3 _ _ _ _ _ _ ih | case9 _ _ _ _ _ _ _ _ _ _ _ _ ih
  | case10 _ _ _ _ _ _ _ _ _ ih => exact ih h
  | case5 _ _ _ _ _ _ _ _ hn hrest | case7 _ _ _ _ _ _ _ _ _ hn hrest
  | case11 _ _ _ _ _ _ _ _ _ _ _ hn hrest =>
    simp only [Except.ok.injEq] at h
    subst h
    exact hn.symm
  | case4 | case6 | case8 | case12 => cases h

theorem resolve_node {d : Disk} {p : Bytes} {follow : Bool} {pl : Place}
    (h : d.resolve p follow = .ok pl) : pl.node = d.node? pl.name := by
  simp only [resolve] at h
  split at h
  · cases h
  · generalize hw : d.walk _ 40 _ (Path.elements p) = r at h
    cases r with
    | error e => cases h
    | ok pl' =>
      have := walk_node hw
      change (if _ then _ else _) = _ at h
      split at h
      · split at h <;> cases h <;> exact this
      · cases h
        exact this

section Retouch

variable {d d' : Disk} {k : Bytes} {n n' : Node} (hk : d.node? k = some n)
  (hk' : d'.node? k = some n') (hn : n.Terminal) (hn' : n'.Terminal)
  (hother : ∀ x, x ≠ k → d'.node? x = d.node? x)
include hk hk' hn hn' hother

theorem walk_retouch (follow : Bool) (fuel : Nat) (cur : Bytes) (els : List Bytes) :
    d'.walk follow fuel cur els = (d.walk follow fuel cur els).map (Place.retouch k n') := by
  -- a name holding anything but `n` is not `k`, and both disks hold the same there
  have hne : ∀ {x m}, d.node? x = m → m ≠ some n → x ≠ k := fun hx hm h => hm (hx ▸ h ▸ hk)
  have hsame : ∀ {x m}, d.node? x = m → m ≠ some n → d'.node? x = m :=
    fun hx hm => (hother _ (hne hx hm)).trans hx
  have hdir : some Node.dir ≠ some n := fun h => hn.1 (Option.some.inj h).symm
  have hlink : ∀ t, some (Node.link t) ≠ some n := fun t h => hn.2 t (Option.some.inj h).symm
  fun_induction d.walk follow fuel cur els with
  | case1 fuel cur =>
    rw [walk]
    by_cases hc : cur = k
    · subst hc
      simp [Except.map, Place.retouch, hk']
    · simp [Except.map, Place.retouch, hc, hother cur hc]
  | case2 fuel cur e rest he ih => rw [walk, if_pos he, ih]
  | case3 fuel cur e rest he he' ih => rw [walk, if_neg he, if_pos he', ih]
  | case4 fuel cur e rest he he' hlong => rw [walk, if_neg he, if_neg he', if_pos hlong]; rfl
  | case5 fuel cur e rest he he' hlong full hm hrest =>
    rw [walk, if_neg he, if_neg he', if_neg hlong]
    dsimp only
    rw [show d'.node? (child cur e) = _ from hsame hm (by simp)]
    simp [Except.map, Place.retouch, hrest, full, hne hm (by simp)]
  | case6 fuel cur e rest he he' hlong full hm hrest =>
    rw [walk, if_neg he, if_neg he', if_neg hlong]
    dsimp only
    rw [show d'.node? (child cur e) = _ from hsame hm (by simp)]
    simp [Except.map, hrest]
  | case7 fuel cur e rest he he' hlong full t hm hstop =>
    rw [walk, if_neg he, if_neg he', if_neg hlong]
    dsimp only
    rw [show d'.node? (child cur e) = _ from hsame hm (hlink t)]
    simp [Except.map, Place.retouch, hstop, full, hne hm (hlink t)]
  | case8 cur e rest he he' hlong full t hm hstop =>
    rw [walk, if_neg he, if_neg he', if_neg hlong]
    dsimp only
    rw [show d'.node? (child cur e) = _ from hsame hm (hlink t)]
    simp [Except.map, hstop]
  | case9 cur e rest he he' hlong full t hm hstop fuel start ih =>
    rw [walk, if_neg he, if_neg he', if_neg hlong]
    dsimp only
    rw [show d'.node? (child cur e) = _ from hsame hm (hlink t)]
    simp only [hstop]
    exact ih
  | case10 fuel cur e rest he he' hlong full hm ih =>
    rw [walk, if_neg he, if_neg he', if_neg hlong]
    dsimp only
    rw [show d'.node? (child cur e) = _ from hsame hm hdir]
    exact ih
  | case11 fuel cur e rest he he' hlong full m hmlink hmdir hm hrest =>
    rw [walk, if_neg he, if_neg he', if_neg hlong]
    dsimp only
    by_cases hc : child cur e = k
    · -- the name `k` itself, found holding what it holds now
      rw [show d'.node? (child cur e) = some n' from hc ▸ hk']
      obtain ⟨hn'dir, hn'link⟩ := hn'
      cases n' <;> simp_all [Except.map, Place.retouch, full]
    · rw [hother _ hc, show d.node? (child cur e) = some m from hm]
      cases m <;> simp_all [Except.map, Place.retouch, full]
  | case12 fuel cur e rest he he' hlong full m hmlink hmdir hm hrest =>
    rw [walk, if_neg he, if_neg he', if_neg hlong]
    dsimp only
    by_cases hc : child cur e = k
    · rw [show d'.node? (child cur e) = some n' from hc ▸ hk']
      obtain ⟨hn'dir, hn'link⟩ := hn'
      cases n' <;> simp_all [Except.map]
    · rw [hother _ hc, show d.node? (child cur e) = some m from hm]
      cases m <;> simp_all [Except.map]

theorem resolve_retouch (hwd : d'.workDir = d.workDir) (p : Bytes) (follow : Bool) :
    d'.resolve p follow = (d.resolve p follow).map (Place.retouch k n') := by
  simp only [resolve, hwd, walk_retouch hk hk' hn hn' hother]
  split
  · rfl
  · generalize hw : d.walk _ 40 _ (Path.elements p) = r
    cases r with
    | error e => rfl
    | ok pl =>
      have hnode := walk_node hw
      change (if _ then _ else _) = Except.map _ (if _ then _ else _)
      by_cases hpl : pl.name = k
      · -- the name `k`, no directory before the change or after it
        rw [hpl, hk] at hnode
        obtain ⟨hndir, -⟩ := hn
        obtain ⟨hn'dir, -⟩ := hn'
        split <;> (try split) <;> simp_all [Place.retouch, Except.map, pure, Except.pure, throw,
          throwThe, MonadExceptOf.throw]
      · have hr : Place.retouch k n' pl = pl := if_neg hpl
        rw [hr]
        split
        · split <;> simp_all [Except.map, pure, Except.pure, throw, throwThe, MonadExceptOf.throw]
        · simp [Except.map, pure, Except.pure, *]

end Retouch

theorem resolve_of_nodes {d d' : Disk} (hnodes : d'.nodes = d.nodes) (hwd : d'.workDir = d.workDir)
    {p k : Bytes} {n : Node} (hn : n.Terminal) (h : d.resolve p true = .ok ⟨k, some n⟩) :
    d'.resolve p true = .ok ⟨k, some n⟩ := by
  have hk : d.node? k = some n := (resolve_node h).symm
  rw [resolve_retouch hk (by simpa [node?, hnodes] using hk) hn hn (fun x _ => by simp [node?, hnodes])
    hwd, h]
  simp [Except.map, Place.retouch]

theorem append_full {d : Disk} {p k : Bytes} (h : d.resolve p true = .ok ⟨k, some .full⟩)
    (data : Bytes) : d.append p data = .error (Errno.noSpace.on "write" p) := by
  simp [Disk.append, h]

/-- The disk `d₀` with `S` added to the end of the regular file at `k`, which held `c`: the working
directory is the same, and every other name holds what it held. -/
structure Grown (d₀ : Disk) (k c S : Bytes) (d : Disk) : Prop where
  workDir : d.workDir = d₀.workDir
  held : d₀.node? k = some (.file c)
  holds : d.node? k = some (.file (c ++ S))
  other : ∀ x, x ≠ k → d.node? x = d₀.node? x
  stamped : ∀ x, x ≠ k → d.stamps.lookup x = d₀.stamps.lookup x

namespace Grown

variable {d₀ d : Disk} {k c S : Bytes}

theorem start (hk : d₀.node? k = some (.file c)) : Grown d₀ k c [] d₀ :=
  ⟨rfl, hk, by simpa using hk, fun _ _ => rfl, fun _ _ => rfl⟩

theorem of_nodes (h : Grown d₀ k c S d) {d' : Disk} (hn : d'.nodes = d.nodes)
    (hw : d'.workDir = d.workDir) (hs : d'.stamps = d.stamps) : Grown d₀ k c S d' :=
  ⟨hw.trans h.workDir, h.held, by simpa [node?, hn] using h.holds,
    fun x hx => by simpa [node?, hn] using h.other x hx, fun x hx => by rw [hs]; exact h.stamped x hx⟩

theorem resolve (h : Grown d₀ k c S d) (p : Bytes) (follow : Bool) :
    d.resolve p follow = (d₀.resolve p follow).map (Place.retouch k (.file (c ++ S))) :=
  resolve_retouch h.held h.holds (Node.terminal_file c) (Node.terminal_file _) h.other h.workDir p follow

theorem stat (h : Grown d₀ k c S d) (op : String) (p : Bytes) (follow : Bool) :
    d.stat op p follow = d₀.stat op p follow := by
  unfold Disk.stat
  rw [h.resolve]
  cases hr : d₀.resolve p follow with
  | error e => rfl
  | ok pl =>
    obtain ⟨name, node⟩ := pl
    have hnode : node = d₀.node? name := resolve_node hr
    by_cases hpl : name = k
    · -- the grown file: a regular file still
      rw [hpl, h.held] at hnode
      simp [Except.map, Place.retouch, hpl, hnode, Node.kind]
    · simp [Except.map, Place.retouch, hpl]

theorem statTime (h : Grown d₀ k c S d) {p : Bytes}
    (hp : ∀ pl, d₀.resolve p true = .ok pl → pl.name ≠ k) : d.statTime p = d₀.statTime p := by
  unfold Disk.statTime
  rw [h.resolve]
  cases hr : d₀.resolve p true with
  | error e => rfl
  | ok pl =>
    obtain ⟨name, node⟩ := pl
    have hne : name ≠ k := hp _ hr
    cases node <;> simp [Except.map, Place.retouch, hne, h.stamped name hne]

theorem read (h : Grown d₀ k c S d) {p : Bytes}
    (hp : ∀ pl, d₀.resolve p true = .ok pl → pl.name ≠ k) : d.read p = d₀.read p := by
  unfold Disk.read
  rw [h.resolve]
  cases hr : d₀.resolve p true with
  | error e => rfl
  | ok pl => simp [Except.map, Place.retouch, hp pl hr]

theorem append (h : Grown d₀ k c S d) {p : Bytes} (hp : d₀.resolve p true = .ok ⟨k, some (.file c)⟩)
    (data : Bytes) : ∃ d', d.append p data = .ok d' ∧ Grown d₀ k c (S ++ data) d' := by
  have hres : d.resolve p true = .ok ⟨k, some (.file (c ++ S))⟩ := by
    simp [h.resolve, hp, Except.map, Place.retouch]
  refine ⟨d.write k (c ++ S ++ data), by simp [Disk.append, hres], ⟨h.workDir, h.held, ?_, ?_, ?_⟩⟩
  · simp [node?_write]
  · intro x hx
    rw [node?_write, if_neg hx, h.other x hx]
  · -- the write stamps the grown file alone
    intro x hx
    simp [Disk.write, List.lookup_cons, beq_false_of_ne hx, h.stamped x hx]

end Grown

end Disk

end ResourceSymbols
