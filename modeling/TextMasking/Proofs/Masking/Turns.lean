import TextMasking.Proofs.Document.Rewriting
import TextMasking.Proofs.Masking.Leftover

/-! # What turns make of a text

A pass gives each of its matchers a turn over a node.  What comes of a text when turns are taken one
after the other depends on the text and its surroundings alone: the first turn may take it apart,
and the others treat the texts that are left in the same way (`Turn.yield`).  So turns that do the
same to the parts of a text come to the same (`Turn.yield_agree`), whatever turns there are that do
nothing to them.

`Turn.afterAll` and `Turn.scansOf` are what turns make of trees, and what they find in them. -/

namespace TextMasking

open Forest (keep)

/-- A matcher that is applied at and below a node. -/
structure Turn where
  matcher : Matcher
  scope : NodeId

/-- What a matcher found in a text, or why it was given up there. -/
structure Scanned where
  pattern : String
  result : Except ScanFault (List TextMatch)

/-- What comes of a text, and what was found on the way. -/
structure Outcome where
  leaves : Forest
  scans : List Scanned

namespace Turn

/-- The text is attached and lies at or below the node. -/
def Reaches (t : Turn) (i : NodeId) (u : TextUnit) : Prop :=
  Document.root ∈ u.above.map (·.id) ∧ (i = t.scope ∨ t.scope ∈ u.above.map (·.id))

instance (t : Turn) (i : NodeId) (u : TextUnit) : Decidable (t.Reaches i u) :=
  inferInstanceAs (Decidable (_ ∧ _))

variable (options : Options) (n : NodeId)

/-- What is found in a text, which is nothing if the text is not read. -/
def scan (t : Turn) (i : NodeId) (u : TextUnit) : Except ScanFault (List TextMatch) :=
  if t.Reaches i u then
    match u.passage? options with
    | some p => t.matcher.scan p.before p.text p.after options
    | none => .ok []
  else .ok []

/-- What becomes of a text; new leaves get the number `n`. -/
def cut (t : Turn) (i : NodeId) (u : TextUnit) : Forest :=
  match t.scan options i u with
  | .ok (f :: found) => Fragment.leaves n (Fragment.ofMatches u.passage.text (f :: found))
  | _ => keep i u

/-- What is noted of a scan, unless nothing was found. -/
def scans (t : Turn) (i : NodeId) (u : TextUnit) : List Scanned :=
  match t.scan options i u with
  | .ok [] => []
  | result => [⟨t.matcher.rule.pattern, result⟩]

/-- What comes of a text when turns are taken one after the other. -/
def yield : List Turn → NodeId → TextUnit → Outcome
  | [], i, u => ⟨keep i u, []⟩
  | t :: ts, i, u =>
    { leaves := (t.cut options n i u).rewrite (fun j v => (yield ts j v).leaves)
        u.above u.passage.before u.passage.after
      scans := t.scans options i u ++
        ((t.cut options n i u).textsIn u.above u.passage.before u.passage.after).flatMap
          fun p => (yield ts p.1 p.2).scans }

variable {options : Options} {n : NodeId} {t t' : Turn} {ts ts' : List Turn} {i : NodeId}
  {u : TextUnit}

/-! ### One turn -/

/-- What was found was found in the passage of the text. -/
theorem scan_eq_of_ne_nil {found : List TextMatch} (h : t.scan options i u = .ok found)
    (hne : found ≠ []) : t.Reaches i u ∧ u.passage? options = some u.passage ∧
      t.matcher.scan u.passage.before u.passage.text u.passage.after options = .ok found := by
  unfold scan at h
  split_ifs at h with hr
  · cases hp : u.passage? options with
    | none =>
        rw [hp] at h
        cases h
        exact absurd rfl hne
    | some p =>
        rw [hp] at h
        rw [TextUnit.eq_of_passage? hp]
        exact ⟨hr, rfl, h⟩
  · cases h
    exact absurd rfl hne

theorem scan_of_not_reaches (h : ¬t.Reaches i u) : t.scan options i u = .ok [] := if_neg h

theorem reads_cut (options : Options) (n : NodeId) (t : Turn) (i : NodeId) (u : TextUnit) :
    (t.cut options n i u).Reads u.passage.text := by
  unfold cut
  split
  · rename_i f found h
    obtain ⟨-, -, hscan⟩ := scan_eq_of_ne_nil h (List.cons_ne_nil _ _)
    have hreads := Fragment.reads_leaves n (Fragment.ofMatches u.passage.text (f :: found))
    rwa [Matcher.unmasked_ofMatches hscan] at hreads
  · exact Forest.reads_keep i u

theorem cut_of_idle (h : t.scan options i u = .ok []) : t.cut options n i u = keep i u := by
  rw [cut, h]

theorem scans_of_idle (h : t.scan options i u = .ok []) : t.scans options i u = [] := by
  rw [scans, h]

/-- The texts that are left of a text in which something was found are those among the
fragments. -/
theorem mem_textsIn_cut {f : TextMatch} {found : List TextMatch} {p : NodeId × TextUnit}
    (h : t.scan options i u = .ok (f :: found)) (hp : p ∈
      (t.cut options n i u).textsIn u.above u.passage.before u.passage.after) :
    p.1 = n ∧ ∃ j, (j, p.2) ∈ Fragment.units u.above u.passage.before u.passage.after 0
      (Fragment.ofMatches u.passage.text (f :: found)) := by
  rw [cut, h] at hp
  dsimp only at hp
  rw [Fragment.textsIn_leaves n 0] at hp
  obtain ⟨⟨j, v⟩, hv, rfl⟩ := List.mem_map.mp hp
  exact ⟨rfl, j, hv⟩

/-- The texts that a turn leaves stand below the same elements. -/
theorem part_of_mem_cut {p : NodeId × TextUnit} (hp : p ∈
    (t.cut options n i u).textsIn u.above u.passage.before u.passage.after) :
    p.2.above = u.above ∧ (p.1 = i ∨ p.1 = n) := by
  have hkeep (hcut : t.cut options n i u = keep i u) :
      p.2.above = u.above ∧ (p.1 = i ∨ p.1 = n) := by
    rw [hcut] at hp
    rw [List.mem_singleton.mp hp]
    exact ⟨rfl, .inl rfl⟩
  cases h : t.scan options i u with
  | error e => exact hkeep (by rw [cut, h])
  | ok found =>
      cases found with
      | nil => exact hkeep (cut_of_idle h)
      | cons f found =>
          obtain ⟨hn, j, hv⟩ := mem_textsIn_cut h hp
          exact ⟨Fragment.above_of_mem_units hv, .inr hn⟩

/-! ### Turns in a row -/

/-- A turn that finds nothing in a text leaves it to the others. -/
theorem yield_cons_of_idle (h : t.scan options i u = .ok []) :
    yield options n (t :: ts) i u = yield options n ts i u := by
  rw [yield, cut_of_idle h, scans_of_idle h, Forest.rewrite_keep_self]
  simp [keep, Forest.textsIn, Forest.textAfter]

/-- Turns that find nothing in a text leave it as it is. -/
theorem yield_of_idle (h : ∀ t ∈ ts, t.scan options i u = .ok []) :
    yield options n ts i u = ⟨keep i u, []⟩ := by
  induction ts with
  | nil => rfl
  | cons t ts ih =>
      obtain ⟨ht, hts⟩ := List.forall_mem_cons.mp h
      rw [yield_cons_of_idle ht, ih hts]

/-- The texts that are left are treated in the same way by turns that treat them in the same
way. -/
theorem yield_cons_congr (hscan : t.scan options i u = t'.scan options i u)
    (hpattern : t.matcher.rule.pattern = t'.matcher.rule.pattern)
    (h : ∀ p ∈ (t.cut options n i u).textsIn u.above u.passage.before u.passage.after,
      yield options n ts p.1 p.2 = yield options n ts' p.1 p.2) :
    yield options n (t :: ts) i u = yield options n (t' :: ts') i u := by
  have hcut : t'.cut options n i u = t.cut options n i u := by rw [cut, cut, hscan]
  have hscans : t'.scans options i u = t.scans options i u := by
    rw [scans, scans, hscan, hpattern]
  rw [yield, yield, hcut, hscans]
  congr 1
  · exact Forest.rewrite_congr fun p hp => by rw [h p hp]
  · congr 1
    exact List.flatMap_congr fun p hp => by rw [h p hp]

/-- The first turns are those that do the same as the others, in the same order, besides turns that
do nothing; all this to the texts of which `P` holds. -/
inductive Agree (o : Options) (P : NodeId → TextUnit → Prop) : List Turn → List Turn → Prop
  | nil : Agree o P [] []
  | idle {a l l'} : (∀ i u, P i u → a.scan o i u = .ok []) → Agree o P l l' →
      Agree o P (a :: l) l'
  | same {a b l l'} : (∀ i u, P i u → a.scan o i u = b.scan o i u) →
      a.matcher.rule.pattern = b.matcher.rule.pattern → Agree o P l l' →
      Agree o P (a :: l) (b :: l')

/-- A text with the number `i` or a new one, below these elements. -/
def PartOf (n i : NodeId) (above : List Forest.Ancestor) (j : NodeId) (v : TextUnit) : Prop :=
  v.above = above ∧ (j = i ∨ j = n)

/-- **Turns that agree on the parts of a text make the same of it.** -/
theorem yield_agree {above : List Forest.Ancestor} {j : NodeId} {v : TextUnit}
    (h : Agree options (PartOf n i above) ts ts') (hv : PartOf n i above j v) :
    yield options n ts j v = yield options n ts' j v := by
  induction h generalizing j v with
  | nil => rfl
  | idle hidle _ ih => rw [yield_cons_of_idle (hidle j v hv), ih hv]
  | same hscan hpattern _ ih =>
      refine yield_cons_congr (hscan j v hv) hpattern fun p hp => ih ?_
      obtain ⟨habove, hid⟩ := part_of_mem_cut hp
      refine ⟨habove.trans hv.1, ?_⟩
      rcases hid with e | e
      · exact e ▸ hv.2
      · exact .inr e

/-! ### Matchers of which one finds something -/

/-- No matcher was given up. -/
def Clean (scans : List Scanned) : Prop :=
  ∀ s ∈ scans, ∃ found, s.result = .ok found

theorem clean_scans_iff :
    Clean (t.scans options i u) ↔ ∃ found, t.scan options i u = .ok found := by
  rw [scans]
  cases h : t.scan options i u with
  | error e => simp [Clean]
  | ok found => cases found <;> simp [Clean]

theorem clean_yield_cons (h : Clean (yield options n (t :: ts) i u).scans) :
    (∃ found, t.scan options i u = .ok found) ∧
      ∀ p ∈ (t.cut options n i u).textsIn u.above u.passage.before u.passage.after,
        Clean (yield options n ts p.1 p.2).scans := by
  obtain ⟨hown, hrest⟩ := List.forall_mem_append.mp h
  exact ⟨clean_scans_iff.mp hown,
    fun p hp s hs => hrest s (List.mem_flatMap.mpr ⟨p, hp, hs⟩)⟩

/-- Where nothing is left to be found and no matcher is given up, turns find nothing. -/
theorem idle_of_settled (hs : ∀ t ∈ ts, t.matcher.Settled u.passage.scanText)
    (hclean : Clean (yield options n ts i u).scans) : ∀ t ∈ ts, t.scan options i u = .ok [] := by
  induction ts with
  | nil => exact fun _ h => absurd h List.not_mem_nil
  | cons t ts ih =>
      obtain ⟨ht, hts⟩ := List.forall_mem_cons.mp hs
      obtain ⟨⟨found, hscan⟩, -⟩ := clean_yield_cons hclean
      have hnil : found = [] := by
        by_contra hne
        exact hne (ht.eq_nil_of_scan (scan_eq_of_ne_nil hscan hne).2.2)
      rw [hnil] at hscan
      rw [yield_cons_of_idle hscan] at hclean
      exact List.forall_mem_cons.mpr ⟨hscan, ih hts hclean⟩

/-- The turns of matchers over a node. -/
def overNode (x : NodeId) (ms : List Matcher) : List Turn := ms.map (⟨·, x⟩)

theorem overNode_cons (x : NodeId) (m : Matcher) (ms : List Matcher) :
    overNode x (m :: ms) = ⟨m, x⟩ :: overNode x ms := rfl

theorem scope_of_mem_overNode {x : NodeId} {ms : List Matcher} (h : t ∈ overNode x ms) :
    t.scope = x := by
  obtain ⟨m, -, rfl⟩ := List.mem_map.mp h
  rfl

/-- **Turns over a text itself** make the same of it as turns over an element above it if only one
of the matchers finds something in it; the text has lost its parent when the others have their
turn. -/
theorem yield_over_text {ms : List Matcher} {x : NodeId} (hms : ∀ m ∈ ms, m.Anchored)
    (hin : i ≠ n) (hleaf : i ∉ u.above.map (·.id)) (hx : x ∈ u.above.map (·.id))
    (hone : ms.Pairwise fun m m' => (Turn.mk m x).scan options i u = .ok [] ∨
      (Turn.mk m' x).scan options i u = .ok [])
    (hclean : Clean (yield options n (overNode x ms) i u).scans) :
    yield options n (overNode i ms) i u = yield options n (overNode x ms) i u := by
  induction ms with
  | nil => rfl
  | cons m ms ih =>
      obtain ⟨-, hms'⟩ := List.forall_mem_cons.mp hms
      obtain ⟨hfirst, hone⟩ := List.pairwise_cons.mp hone
      have hreach (m : Matcher) : (Turn.mk m i).Reaches i u ↔ (Turn.mk m x).Reaches i u := by
        simp only [Reaches, hx, true_or, or_true]
      have hsame : (Turn.mk m i).scan options i u = (Turn.mk m x).scan options i u := by
        simp only [scan, hreach]
      rw [overNode_cons] at hclean
      rw [overNode_cons, overNode_cons]
      obtain ⟨⟨found, hscan⟩, hrest⟩ := clean_yield_cons hclean
      cases found with
      | nil =>
          rw [yield_cons_of_idle hscan] at hclean
          rw [yield_cons_of_idle (hsame.trans hscan), yield_cons_of_idle hscan]
          exact ih hms' hone hclean
      | cons f found =>
          refine yield_cons_congr hsame rfl fun p hp => ?_
          obtain ⟨hr, hpass, hfound⟩ := scan_eq_of_ne_nil hscan (List.cons_ne_nil _ _)
          rw [cut, hsame, ← cut] at hp
          obtain ⟨hpn, j, hv⟩ := mem_textsIn_cut hscan hp
          have habove := Fragment.above_of_mem_units hv
          -- the text is not above what is left of it
          have hidle : ∀ t ∈ overNode i ms, t.scan options p.1 p.2 = .ok [] := by
            intro t ht
            obtain ⟨m', -, rfl⟩ := List.mem_map.mp ht
            refine scan_of_not_reaches fun hreach => ?_
            rcases hreach.2 with e | e
            · exact hin (e.symm.trans hpn)
            · exact hleaf (habove ▸ e)
          -- the other matchers have found nothing in the text, so they find nothing in its parts
          have hidle' : ∀ t ∈ overNode x ms, t.scan options p.1 p.2 = .ok [] := by
            refine idle_of_settled (n := n) ?_ (hrest p hp)
            intro t ht
            obtain ⟨m', hm', rfl⟩ := List.mem_map.mp ht
            have hnil := (hfirst m' hm').resolve_left (by rw [hscan]; simp)
            have hr' : (Turn.mk m' x).Reaches i u := hr
            have hscan' : m'.scan u.passage.before u.passage.text u.passage.after options =
                .ok [] := by
              rw [scan, if_pos hr', hpass] at hnil
              exact hnil
            exact (Matcher.settled_of_scan_nil (hms' m' hm') hscan').of_mem_units hfound hv
          rw [yield_of_idle hidle, yield_of_idle hidle']

/-! ### Trees -/

variable (options n)

/-- Trees after one turn. -/
def cutAll (t : Turn) (trees : List Forest) : List Forest :=
  trees.map fun f => f.rewrite (t.cut options n) [] "" ""

/-- What a turn finds in trees. -/
def scansIn (t : Turn) (trees : List Forest) : List Scanned :=
  trees.flatMap fun f => (f.textsIn [] "" "").flatMap fun p => t.scans options p.1 p.2

/-- Trees after turns in a row. -/
def afterAll (ts : List Turn) (trees : List Forest) : List Forest :=
  trees.map fun f => f.rewrite (fun i u => (yield options n ts i u).leaves) [] "" ""

/-- What turns in a row find in trees. -/
def scansOf (ts : List Turn) (trees : List Forest) : List Scanned :=
  trees.flatMap fun f => (f.textsIn [] "" "").flatMap fun p => (yield options n ts p.1 p.2).scans

variable {options n} {trees : List Forest}

@[simp] theorem afterAll_nil : afterAll options n [] trees = trees := by
  unfold afterAll
  conv_rhs => rw [← List.map_id trees]
  exact List.map_congr_left fun f _ => Forest.rewrite_keep f

@[simp] theorem scansOf_nil : scansOf options n [] trees = [] := by
  simp [scansOf, yield]

/-- **Turns in a row are taken one after the other.** -/
theorem afterAll_cons : afterAll options n (t :: ts) trees =
    afterAll options n ts (cutAll options n t trees) := by
  rw [afterAll, afterAll, cutAll, List.map_map]
  refine List.map_congr_left fun f _ => ?_
  rw [Function.comp_apply, Forest.rewrite_rewrite fun p _ => reads_cut options n t p.1 p.2]
  rfl

theorem scansOf_cons : (scansOf options n (t :: ts) trees).Perm
    (scansIn options t trees ++ scansOf options n ts (cutAll options n t trees)) := by
  have hrest : scansOf options n ts (cutAll options n t trees) = trees.flatMap fun f =>
      (f.textsIn [] "" "").flatMap fun p =>
        ((t.cut options n p.1 p.2).textsIn p.2.above p.2.passage.before p.2.passage.after).flatMap
          fun q => (yield options n ts q.1 q.2).scans := by
    rw [scansOf, cutAll, List.flatMap_map]
    refine List.flatMap_congr fun f _ => ?_
    rw [Forest.textsIn_rewrite fun p _ => reads_cut options n t p.1 p.2, List.flatMap_assoc]
  rw [hrest, scansIn]
  refine List.Perm.trans ?_ (List.flatMap_append_perm _ _ _).symm
  exact List.Perm.flatMap_left _ fun f _ => (List.flatMap_append_perm _ _ _).symm

theorem afterAll_append : afterAll options n (ts ++ ts') trees =
    afterAll options n ts' (afterAll options n ts trees) := by
  induction ts generalizing trees with
  | nil => rw [afterAll_nil, List.nil_append]
  | cons t ts ih => rw [List.cons_append, afterAll_cons, ih, afterAll_cons]

theorem scansOf_append : (scansOf options n (ts ++ ts') trees).Perm
    (scansOf options n ts trees ++ scansOf options n ts' (afterAll options n ts trees)) := by
  induction ts generalizing trees with
  | nil => rw [scansOf_nil, afterAll_nil, List.nil_append, List.nil_append]
  | cons t ts ih =>
      have hfirst : (scansOf options n (t :: (ts ++ ts')) trees).Perm _ := scansOf_cons
      rw [afterAll_cons]
      refine hfirst.trans ((ih.append_left _).trans ?_)
      rw [← List.append_assoc]
      exact scansOf_cons.symm.append_right _

end Turn

end TextMasking
