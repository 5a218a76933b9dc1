import Mathlib.Logic.Relation
import StoryCatalog.Proofs.Chain.Stories
import StoryCatalog.Syntax.Tree

/-!
# Points recorded on the way

A walk that records points as it goes, turn by turn: whenever the recogniser asks a node for its
span, both ends of the node enter the table, also those of candidates that turn out to be no chains.
After every turn the table holds an entry for the end of each story found so far
(`Backed`, `backed_of_reaches`), so laying the stories out never misses one, and an offset that has
one point, whatever it is and however often it was recorded, gets the position of this point
(`recording_never_misses`).
-/

namespace StoryCatalog

open Chain

/-- The position that a point gives to an offset. -/
def Point.position (source : Bytes) (offset : Int) (point : Point) : Position :=
  ⟨point.row + 1, charColumn source offset point.column⟩

namespace PointTable

variable {table : PointTable}

/-- Recording two lists of points one after the other records them as one list. -/
theorem recordAll_append (first second : List (Int × Point)) :
    table.recordAll (first ++ second) = (table.recordAll first).recordAll second := by
  simp [recordAll]

/-- An offset has the position that all records of it agree on, however many there are. -/
theorem lookup_recordAll {records : List (Int × Point)} {offset : Int} {position : Position}
    (hagree : ∀ r ∈ records, r.1 = offset → r.2.position table.source offset = position)
    (h : offset ∈ records.map Prod.fst ∨ table.entries.lookup offset = some position) :
    (table.recordAll records).entries.lookup offset = some position := by
  induction records generalizing table with
  | nil => simpa [recordAll] using h
  | cons r rest ih =>
      have hagree' : ∀ other ∈ rest, other.1 = offset →
          other.2.position (table.record r.1 r.2).source offset = position :=
        fun other hother => hagree other (List.mem_cons_of_mem _ hother)
      refine ih hagree' ?_
      rw [lookup_record]
      by_cases hoffset : offset = r.1
      · right
        rw [if_pos hoffset, ← hagree r List.mem_cons_self hoffset.symm, hoffset]
        rfl
      · rw [if_neg hoffset]
        simpa [hoffset] using h

end PointTable

namespace Chain

variable {N : Type}

/-- The chain that a call was read as, if it was. -/
def Outcome.chains : Outcome N → List (Match N)
  | .matched found => [found]
  | .mismatched _ => []

end Chain

namespace View

variable {N : Type} (view : View N) (pattern : Pattern) (ends : N → Point × Point)

/-- What a node records when it is asked for its span: the points of its two ends. -/
def records (node : N) : List (Int × Point) :=
  [((view.span node).start, (ends node).1), ((view.span node).stop, (ends node).2)]

/-- A walk in progress: the nodes still to be walked, the chains found so far, and the points
recorded so far. -/
structure Progress (N : Type) where
  stack : List N
  found : List (Match N)
  table : PointTable

/-- One turn of a walk that records as it goes. A walk whose stack is empty has ended. -/
def turn : Progress N → Option (Progress N)
  | ⟨[], _, _⟩ => none
  | ⟨node :: rest, found, table⟩ =>
      if view.isCall node then
        let descent := view.descend pattern node [] [] []
        some ⟨view.pending descent.outcome ++ rest, found ++ descent.outcome.chains,
          table.recordAll (descent.consulted.flatMap (view.records ends))⟩
      else some ⟨view.children node ++ rest, found, table⟩

/-- A walk in progress comes to be another one by turns. -/
def Reaches : Progress N → Progress N → Prop :=
  Relation.ReflTransGen fun before after => view.turn pattern ends before = some after

/-- The walk of a tree before its first turn. -/
def begun (source : Bytes) (root : N) : Progress N :=
  ⟨[root], [], .empty source⟩

/-- The points that a source has at the ends of a node. -/
def pointsOf (source : Bytes) (node : N) : Point × Point :=
  (pointAt source (view.span node).start, pointAt source (view.span node).stop)

/-- Every offset has one point, which all nodes that start or end there have. -/
def OnePoint (point : Int → Point) : Prop :=
  ∀ node, ends node = (point (view.span node).start, point (view.span node).stop)

/-- The table holds the points of the nodes asked so far, and each story found so far has the span
of one of these nodes. -/
structure Backed (source : Bytes) (asked : List N) (progress : Progress N) : Prop where
  table_eq : progress.table =
    (PointTable.empty source).recordAll (asked.flatMap (view.records ends))
  asked_of_story : ∀ chain ∈ progress.found, ∀ story ∈ chain.stories,
    ∃ node ∈ asked, story.span = view.span node

variable {view pattern ends} {source : Bytes} {asked : List N} {progress next : Progress N}

/-! ## Turns -/

/-- A turn on a call adds its chain, records its points and walks what is left of it. -/
theorem turn_of_call {node : N} (h : view.isCall node = true) (rest : List N)
    (found : List (Match N)) (table : PointTable) :
    view.turn pattern ends ⟨node :: rest, found, table⟩ =
      some ⟨view.pending (view.recognize pattern node) ++ rest,
        found ++ (view.recognize pattern node).chains,
        table.recordAll
          ((view.descend pattern node [] [] []).consulted.flatMap (view.records ends))⟩ := by
  rw [turn, if_pos h]
  rfl

/-- A turn on anything else only puts its children in its place. -/
theorem turn_of_not_call {node : N} (h : view.isCall node = false) (rest : List N)
    (found : List (Match N)) (table : PointTable) :
    view.turn pattern ends ⟨node :: rest, found, table⟩ =
      some ⟨view.children node ++ rest, found, table⟩ := by
  rw [turn, if_neg (by simp [h])]

theorem chains_recognize (node : N) :
    (view.recognize pattern node).chains = (view.chain? pattern node).toList := by
  cases h : view.recognize pattern node with
  | matched found =>
      rw [chain?_of_matched h]
      rfl
  | mismatched broken =>
      rw [chain?_of_mismatched h]
      rfl

/-- A candidate has its chain before those of the candidates behind it. -/
theorem filterMap_chain?_cons (node : N) (rest : List N) :
    (node :: rest).filterMap (view.chain? pattern) =
      (view.recognize pattern node).chains ++ rest.filterMap (view.chain? pattern) := by
  rw [chains_recognize]
  cases h : view.chain? pattern node with
  | none => rw [List.filterMap_cons_none h, Option.toList_none, List.nil_append]
  | some chain => rw [List.filterMap_cons_some h, Option.toList_some, List.singleton_append]

/-- Asking more nodes, and finding only stories that have the span of one of them, keeps stories
backed. -/
theorem Backed.extend (h : view.Backed ends source asked progress) (more stack : List N)
    {chains : List (Match N)}
    (hchains : ∀ chain ∈ chains, ∀ story ∈ chain.stories,
      ∃ node ∈ more, story.span = view.span node) :
    view.Backed ends source (asked ++ more)
      ⟨stack, progress.found ++ chains,
        progress.table.recordAll (more.flatMap (view.records ends))⟩ where
  table_eq := by
    rw [List.flatMap_append, PointTable.recordAll_append, ← h.table_eq]
  asked_of_story := by
    intro chain hchain story hstory
    rcases List.mem_append.mp hchain with hbefore | hnew
    · obtain ⟨node, hnode, hspan⟩ := h.asked_of_story chain hbefore story hstory
      exact ⟨node, List.mem_append_left _ hnode, hspan⟩
    · obtain ⟨node, hnode, hspan⟩ := hchains chain hnew story hstory
      exact ⟨node, List.mem_append_right _ hnode, hspan⟩

/-- A turn keeps stories backed: what it finds has the spans of nodes that it asks. -/
theorem Backed.turn (h : view.Backed ends source asked progress)
    (hturn : view.turn pattern ends progress = some next) :
    ∃ more, view.Backed ends source (asked ++ more) next := by
  obtain ⟨stack, found, table⟩ := progress
  cases stack with
  | nil => cases hturn
  | cons node rest =>
      cases hcall : view.isCall node with
      | true =>
          -- the nodes of this descent are recorded whatever comes of it; a chain that comes of it
          -- has only stories with their spans
          rw [turn_of_call hcall] at hturn
          cases hturn
          refine ⟨_, h.extend _ _ ?_⟩
          intro chain hchain story hstory
          rw [chains_recognize, Option.mem_toList] at hchain
          exact exists_consulted_of_chain? hchain hstory
      | false =>
          rw [turn_of_not_call hcall] at hturn
          cases hturn
          exact ⟨[], by rw [List.append_nil]; exact ⟨h.table_eq, h.asked_of_story⟩⟩

/-- At the beginning of a walk nothing is asked for, and nothing is recorded. -/
theorem backed_begun (root : N) : view.Backed ends source [] (begun source root) where
  table_eq := rfl
  asked_of_story := by
    intro chain hchain
    cases hchain

/-- At every moment of a walk the stories found so far are backed. -/
theorem backed_of_reaches {root : N}
    (h : view.Reaches pattern ends (begun source root) progress) :
    ∃ asked, view.Backed ends source asked progress := by
  induction h with
  | refl => exact ⟨[], backed_begun root⟩
  | tail _ hturn ih =>
      obtain ⟨asked, hbacked⟩ := ih
      obtain ⟨more, hnext⟩ := hbacked.turn hturn
      exact ⟨asked ++ more, hnext⟩

/-! ## The end of a walk -/

/-- Turn by turn a walk offers its candidates, until nothing is left to be walked. -/
theorem reaches_walkStack (stack : List N) (found : List (Match N)) (table : PointTable) :
    view.Reaches pattern ends ⟨stack, found, table⟩
      ⟨[], found ++ (view.walkStack pattern stack).found,
        table.recordAll
          ((view.walkStack pattern stack).consulted.flatMap (view.records ends))⟩ := by
  -- induction on the candidates, for any chains and points that the walk has in hand before them
  rw [walkStack_eq]
  fun_induction View.candidates view pattern stack generalizing found table with
  | case1 =>
      rw [List.filterMap_nil, List.append_nil]
      exact .refl
  | case2 node rest hcall ih =>
      refine .head (turn_of_call hcall rest found table) ?_
      rw [filterMap_chain?_cons, List.flatMap_cons, List.flatMap_append,
        PointTable.recordAll_append, ← List.append_assoc]
      exact ih _ _
  | case3 node rest hcall ih =>
      exact .head (turn_of_not_call (by simpa using hcall) rest found table) (ih found table)

/-- With the points of the source, recording a node is recording its span. -/
theorem recordAll_pointsOf (nodes : List N) {table : PointTable} (h : table.source = source) :
    table.recordAll (nodes.flatMap (view.records (view.pointsOf source))) =
      nodes.foldl (fun table node => table.recordSpan (view.span node)) table := by
  induction nodes generalizing table with
  | nil => rfl
  | cons node rest ih =>
      have hfirst : table.recordAll (view.records (view.pointsOf source) node) =
          table.recordSpan (view.span node) := by
        subst h
        rfl
      rw [List.flatMap_cons, PointTable.recordAll_append, List.foldl_cons, hfirst]
      exact ih h

/-- The table of a walk records the points of the calls it consulted, in order. -/
theorem pointTable_eq_recordAll (walk : Walk N) :
    view.pointTable source walk = (PointTable.empty source).recordAll
      (walk.consulted.flatMap (view.records (view.pointsOf source))) :=
  (recordAll_pointsOf walk.consulted rfl).symm

/-! ## Looking up -/

/-- The end of a story that was found is among the offsets asked for. -/
theorem Backed.stop_mem_records (h : view.Backed ends source asked progress) {chain : Match N}
    (hchain : chain ∈ progress.found) {story : NamedSpan} (hstory : story ∈ chain.stories) :
    story.span.stop ∈ (asked.flatMap (view.records ends)).map Prod.fst := by
  obtain ⟨node, hnode, hspan⟩ := h.asked_of_story chain hchain story hstory
  rw [List.map_flatMap]
  exact List.mem_flatMap.mpr ⟨node, hnode, by simp [records, hspan]⟩

/-- The end of every story found so far is a key of the table. -/
theorem Backed.isSome_lookup (h : view.Backed ends source asked progress) {chain : Match N}
    (hchain : chain ∈ progress.found) {story : NamedSpan} (hstory : story ∈ chain.stories) :
    (progress.table.entries.lookup story.span.stop).isSome = true := by
  rw [h.table_eq]
  exact PointTable.isSome_lookup_recordAll _ (.inr (h.stop_mem_records hchain hstory))

/-- Where an offset has one point, the point recorded for it is this one. -/
theorem OnePoint.eq_of_mem_records {point : Int → Point} (h : view.OnePoint ends point)
    {r : Int × Point} (hr : r ∈ asked.flatMap (view.records ends)) : r.2 = point r.1 := by
  obtain ⟨node, _, hr⟩ := List.mem_flatMap.mp hr
  rw [records, h node] at hr
  rcases List.mem_pair.mp hr with rfl | rfl <;> rfl

/-- The end of every story found so far has the position of its own point. -/
theorem Backed.resolve (h : view.Backed ends source asked progress) {point : Int → Point}
    (hpoint : view.OnePoint ends point) {chain : Match N} (hchain : chain ∈ progress.found)
    {story : NamedSpan} (hstory : story ∈ chain.stories) :
    progress.table.resolve story.span.stop =
      .ok ((point story.span.stop).position source story.span.stop) := by
  have hlookup : progress.table.entries.lookup story.span.stop =
      some ((point story.span.stop).position source story.span.stop) := by
    rw [h.table_eq]
    refine PointTable.lookup_recordAll ?_ (.inl (h.stop_mem_records hchain hstory))
    intro r hr hstop
    rw [hpoint.eq_of_mem_records hr, hstop]
    rfl
  rw [PointTable.resolve, hlookup]

/-- Whatever the tree, its spans and the points of its nodes, and whatever the names looked for: at
every moment of a walk that records points as it goes, the end of each story found so far is a key
of the table, so that laying the stories out misses none of them; and when every offset has one
point, all positions are those of the offsets' own points, whoever else recorded them. Such a walk
comes to the end that the walk finds, and with the points that the source has it ends with the table
and the stories of the program. -/
theorem recording_never_misses (view : View N) (pattern : Pattern) (source : Bytes) (root : N)
    (ends : N → Point × Point) :
    (∀ progress, view.Reaches pattern ends (begun source root) progress →
        (∀ chain ∈ progress.found, ∀ story ∈ chain.stories,
            (progress.table.entries.lookup story.span.stop).isSome = true) ∧
          (∃ stories, flatten pattern progress.table.resolve
            (progress.found.map Match.declaration) = .ok stories) ∧
          ∀ point, view.OnePoint ends point →
            flatten pattern progress.table.resolve (progress.found.map Match.declaration) =
              .ok (laidOut pattern (fun offset => (point offset).position source offset)
                progress.found)) ∧
      (∃ table, view.Reaches pattern ends (begun source root)
        ⟨[], (view.walk pattern root).found, table⟩) ∧
      view.Reaches pattern (view.pointsOf source) (begun source root)
        ⟨[], (view.walk pattern root).found,
          view.pointTable source (view.walk pattern root)⟩ ∧
      view.storiesByPoint pattern source root =
        .ok (laidOut pattern (bytePosition source) (view.walk pattern root).found) := by
  refine ⟨fun progress hreaches => ?_, ⟨_, reaches_walkStack [root] [] (.empty source)⟩, ?_, ?_⟩
  · obtain ⟨asked, hbacked⟩ := backed_of_reaches hreaches
    refine ⟨fun chain hchain story hstory => hbacked.isSome_lookup hchain hstory, ?_, ?_⟩
    · refine exists_flatten_eq_ok pattern fun chain hchain story hstory => ?_
      obtain ⟨position, hlookup⟩ :=
        Option.isSome_iff_exists.mp (hbacked.isSome_lookup hchain hstory)
      exact ⟨position, by rw [PointTable.resolve, hlookup]⟩
    · intro point hpoint
      exact flatten_eq_laidOut pattern fun chain hchain story hstory =>
        hbacked.resolve hpoint hchain hstory
  · rw [pointTable_eq_recordAll]
    exact reaches_walkStack [root] [] (.empty source)
  · exact flatten_eq_laidOut pattern fun chain hchain story hstory =>
      resolve_pointTable hchain hstory

end View

/-! A candidate that is no chain and then a chain, which ask nodes that end at the same offset, as
the literal that names the kind starts there. -/

namespace SharedOffset

def source : Bytes := Text.utf8 "ab\nadd"

/-- A call of the story method, which ends with the source. -/
def storyOn (object : Tree) : Tree :=
  .call (some (.member (some object) (some "add") ⟨0, 6⟩)) [.string "x" ⟨6, 6⟩] ⟨0, 6⟩

def tree : Tree :=
  .other
    [storyOn (.call (some (.identifier "f" ⟨0, 6⟩)) [] ⟨0, 6⟩),
      storyOn (.call (some (.identifier "storiesOf" ⟨0, 2⟩)) [.string "A" ⟨6, 90⟩] ⟨0, 6⟩)] ⟨0, 6⟩

/-- A point for every offset, other than the point that the source has there. -/
def point (offset : Int) : Point :=
  ⟨offset, 2⟩

def ends (node : Tree) : Point × Point :=
  (point node.span.start, point node.span.stop)

/-- The story gets the position of that point, and from the program that of the source. -/
theorem recorded_positions :
    Tree.view.OnePoint ends point ∧
      (∃ progress, Tree.view.Reaches .standard ends (View.begun source tree) progress ∧
        progress.stack = [] ∧
        flatten .standard progress.table.resolve (progress.found.map Match.declaration) =
          .ok [⟨"A", "x", ⟨7, 0⟩⟩]) ∧
      Tree.view.storiesByPoint .standard source tree = .ok [⟨"A", "x", ⟨2, 1⟩⟩] := by
  obtain ⟨hmoments, ⟨table, hend⟩, _, hprogram⟩ :=
    View.recording_never_misses Tree.view .standard source tree ends
  have hpoint : Tree.view.OnePoint ends point := fun _ => rfl
  have hown : laidOut .standard (fun offset => (point offset).position source offset)
      (Tree.view.walk .standard tree).found = [⟨"A", "x", ⟨7, 0⟩⟩] := by decide +kernel
  have hsource : laidOut .standard (bytePosition source) (Tree.view.walk .standard tree).found =
      [⟨"A", "x", ⟨2, 1⟩⟩] := by decide +kernel
  rw [hsource] at hprogram
  have hstories := (hmoments _ hend).2.2 point hpoint
  rw [hown] at hstories
  exact ⟨hpoint, ⟨_, hend, rfl, hstories⟩, hprogram⟩

end SharedOffset

end StoryCatalog
