import StoryCatalog.Chain.Story
import StoryCatalog.Proofs.Chain.Simulation
import StoryCatalog.Proofs.Location.Position

/-!
# The stories of a walk

Laying chains out is resolving their stories one by one, in order (`flatten_eq_mapM`). So there are
stories as soon as every span has a position (`exists_flatten_eq_ok`), and declarations that agree
in names and resolved positions are laid out alike (`flatten_congr`). The span of every story was
asked for on the way, so a point table has its position (`resolve_pointTable`).
-/

namespace StoryCatalog

open Chain

/-- Two named spans with the same name, whose ends resolve alike. -/
def NamedSpan.SamePlace (resolve resolve' : Int → Except LocationError Position)
    (declared declared' : NamedSpan) : Prop :=
  declared.name = declared'.name ∧ resolve declared.span.stop = resolve' declared'.span.stop

/-- Chains with the same names, whose stories resolve alike, have the same stories. -/
theorem flatten_congr {N M : Type} (pattern : Pattern)
    {resolve resolve' : Int → Except LocationError Position} {found : List (Match N)}
    {found' : List (Match M)}
    (h : List.Forall₂ (fun first second => first.kind.name = second.kind.name ∧
      List.Forall₂ (NamedSpan.SamePlace resolve resolve') first.stories second.stories)
      found found') :
    flatten pattern resolve (found.map Match.declaration) =
      flatten pattern resolve' (found'.map Match.declaration) := by
  unfold flatten
  rw [List.mapM_map, List.mapM_map]
  congr 1
  refine mapM_congr_forall₂ (h.imp ?_)
  rintro first second ⟨hkind, hstories⟩
  refine mapM_congr_forall₂ (hstories.imp ?_)
  rintro declared declared' ⟨hname, hplace⟩
  simp only [Story.ofSpan, hname, hplace, hkind]

/-- The stories that chains declare, each with its chain, in order. -/
def Chain.declared {N : Type} (found : List (Match N)) : List (Match N × NamedSpan) :=
  found.flatMap fun chain => chain.stories.map fun story => (chain, story)

theorem Chain.mem_declared {N : Type} {found : List (Match N)} {chain : Match N}
    {story : NamedSpan} :
    (chain, story) ∈ declared found ↔ chain ∈ found ∧ story ∈ chain.stories := by
  simp [declared]

/-- Laying chains out resolves their stories one by one. -/
theorem flatten_eq_mapM {N : Type} (pattern : Pattern)
    (resolve : Int → Except LocationError Position) (found : List (Match N)) :
    flatten pattern resolve (found.map Match.declaration) =
      (declared found).mapM fun entry =>
        Story.ofSpan pattern resolve entry.1.kind.name entry.2 := by
  induction found with
  | nil => rfl
  | cons chain rest ih =>
      rw [declared, List.flatMap_cons, List.mapM_append, ← declared, ← ih]
      simp only [flatten, List.map_cons, List.mapM_cons, List.mapM_map, Declaration.flatten,
        Match.declaration, bind_assoc, pure_bind]
      rfl

/-- The stories that chains declare, when the ends of their spans have these positions. -/
def Chain.laidOut {N : Type} (pattern : Pattern) (position : Int → Position)
    (found : List (Match N)) : List Story :=
  (declared found).map fun entry =>
    ⟨entry.1.kind.name, entry.2.name, (position entry.2.span.stop).line,
      (position entry.2.span.stop).column - pattern.method.length⟩

theorem flatten_eq_laidOut {N : Type} (pattern : Pattern)
    {resolve : Int → Except LocationError Position} {position : Int → Position}
    {found : List (Match N)}
    (h : ∀ chain ∈ found, ∀ story ∈ chain.stories,
      resolve story.span.stop = .ok (position story.span.stop)) :
    flatten pattern resolve (found.map Match.declaration) =
      .ok (laidOut pattern position found) := by
  rw [flatten_eq_mapM, laidOut]
  refine mapM_eq_ok_map ?_
  rintro ⟨chain, story⟩ hmem
  obtain ⟨hchain, hstory⟩ := mem_declared.mp hmem
  rw [Story.ofSpan, h chain hchain story hstory]
  rfl

/-- There are stories when every span has a position. -/
theorem exists_flatten_eq_ok {N : Type} (pattern : Pattern)
    {resolve : Int → Except LocationError Position} {found : List (Match N)}
    (h : ∀ chain ∈ found, ∀ declared ∈ chain.stories, ∃ position,
      resolve declared.span.stop = .ok position) :
    ∃ stories, flatten pattern resolve (found.map Match.declaration) = .ok stories := by
  rw [flatten_eq_mapM]
  refine exists_mapM_eq_ok fun (chain, story) hmem => ?_
  obtain ⟨hchain, hstory⟩ := mem_declared.mp hmem
  obtain ⟨position, hposition⟩ := h chain hchain story hstory
  exact ⟨_, by rw [Story.ofSpan, hposition]; rfl⟩

namespace View

variable {N : Type} {view : View N} {pattern : Pattern}

/-- The span of a story is that of a node that its descent asked for its span. -/
theorem exists_consulted_of_chain? {node : N} {found : Match N} {declared : NamedSpan}
    (hchain : view.chain? pattern node = some found) (hdeclared : declared ∈ found.stories) :
    ∃ callee ∈ (view.descend pattern node [] [] []).consulted,
      declared.span = view.span callee := by
  unfold chain? at hchain
  split at hchain
  · cases hchain
    obtain ⟨link, hlink, hstory⟩ := List.mem_filterMap.mp hdeclared
    obtain ⟨callee, hcallee, rfl⟩ := Option.map_eq_some_iff.mp hstory
    refine ⟨callee, ?_, rfl⟩
    rw [consulted_descend]
    exact List.mem_append_left _ (List.mem_filterMap.mpr ⟨link, List.mem_reverse.mp hlink, hcallee⟩)
  · exact absurd hchain (by simp)

/-- The span of a story is that of a node that was asked for its span. -/
theorem exists_consulted_of_story {root : N} {found : Match N} {declared : NamedSpan}
    (hfound : found ∈ (view.walk pattern root).found) (hdeclared : declared ∈ found.stories) :
    ∃ node ∈ (view.walk pattern root).consulted, declared.span = view.span node := by
  rw [walk, walkStack_eq] at hfound ⊢
  obtain ⟨node, hnode, hchain⟩ := List.mem_filterMap.mp hfound
  obtain ⟨callee, hcallee, hspan⟩ := exists_consulted_of_chain? hchain hdeclared
  exact ⟨callee, List.mem_flatMap.mpr ⟨node, hnode, hcallee⟩, hspan⟩

/-- The point table of a walk has the position of every story. -/
theorem resolve_pointTable {source : Bytes} {root : N} {found : Match N} {declared : NamedSpan}
    (hfound : found ∈ (view.walk pattern root).found) (hdeclared : declared ∈ found.stories) :
    (view.pointTable source (view.walk pattern root)).resolve declared.span.stop =
      .ok (bytePosition source declared.span.stop) := by
  obtain ⟨node, hnode, hspan⟩ := exists_consulted_of_story hfound hdeclared
  rw [pointTable, ← List.foldl_map (f := view.span) (g := PointTable.recordSpan)]
  refine PointTable.resolve_foldl_recordSpan source ?_
  rw [hspan]
  exact List.mem_map_of_mem hnode

end View

end StoryCatalog
