import ApiForge.Proofs.Success
import ApiForge.Yaml.Value

/-!
# Content that nothing is prepared for

A text of YAML has a value or a fault, or it stops the reader in a way that is not
foreseen. Where the lexer goes through, that takes a node whose tag asks for a
value that its text does not have, or a node that stands inside itself: the parser
of tokens meets nothing else than faults, and the bound on the nodes on the way
down is never reached.
-/

namespace ApiForge.Yaml

/-! ## Nodes inside a node -/

mutual

/-- A node and all nodes inside it. -/
def Node.nodes : Node → List Node
  | .sequence tag items => .sequence tag items :: nodesOfItems items
  | .mapping tag entries => .mapping tag entries :: nodesOfEntries entries
  | node => [node]
  termination_by structural node => node

def nodesOfItems : List Node → List Node
  | [] => []
  | item :: rest => item.nodes ++ nodesOfItems rest
  termination_by structural items => items

def nodesOfEntries : List (Node × Node) → List Node
  | [] => []
  | (key, value) :: rest => key.nodes ++ value.nodes ++ nodesOfEntries rest
  termination_by structural entries => entries

end

/-- The text spells no value of the kind. -/
inductive SpellsNone (text : Text) : Text → Prop
  | truth (none : truth? text = none) : SpellsNone text "bool"
  | whole (none : whole? text = none) : SpellsNone text "int"
  | decimal (none : decimal? text = none) : SpellsNone text "float"
  | moment (none : (momentParts? (withoutFinalBreak text)).bind momentOf? = none) :
      SpellsNone text "timestamp"

theorem eq_none_of_unforeseen {found : Option Scalar}
    (unread : (match found with
      | some scalar => Except.ok scalar
      | none => .error Stop.unforeseen) = .error .unforeseen) : found = none := by
  cases found with
  | none => rfl
  | some scalar => cases unread

theorem spellsNone_of_scalarOf {kind text : Text}
    (unread : scalarOf kind text = .error .unforeseen) : SpellsNone text kind := by
  unfold scalarOf at unread
  dsimp only at unread
  split at unread
  · cases unread
  split at unread
  · next same => exact same ▸ .truth (Option.map_eq_none_iff.mp (eq_none_of_unforeseen unread))
  split at unread
  · next same => exact same ▸ .whole (Option.map_eq_none_iff.mp (eq_none_of_unforeseen unread))
  split at unread
  · next same => exact same ▸ .decimal (Option.map_eq_none_iff.mp (eq_none_of_unforeseen unread))
  split at unread
  · split at unread <;> cases unread
  split at unread
  · next same => exact same ▸ .moment (eq_none_of_unforeseen unread)
  split at unread <;> cases unread

/-- The node has a text and a tag that asks for a value of another kind than the text has. A moment
must be the text of the node itself. -/
inductive Node.LacksValue (node : Node) : Prop
  | unread {kind text : Text} (tagged : kindOf? node.tag = some kind)
      (spelled : textOf? node.depth node = some text) (none : SpellsNone text kind) :
      LacksValue node
  | held {text : Text} (tagged : kindOf? node.tag = some "timestamp".toList)
      (spelled : textOf? node.depth node = some text)
      (holder : ∀ tag own, node ≠ .scalar tag own) : LacksValue node

/-- Something in the list of nodes has no value that is foreseen. -/
def IsUnprepared (nodes : List Node) : Prop :=
  ∃ node ∈ nodes, node.LacksValue ∨ node = .cycle

theorem IsUnprepared.mono {nodes others : List Node} (inside : nodes ⊆ others)
    (unprepared : IsUnprepared nodes) : IsUnprepared others := by
  obtain ⟨node, member, reason⟩ := unprepared
  exact ⟨node, inside member, reason⟩

theorem nodes_subset_of_mem_items {item : Node} {items : List Node} (member : item ∈ items) :
    item.nodes ⊆ nodesOfItems items := by
  induction items with
  | nil => cases member
  | cons first rest ih =>
      rw [nodesOfItems]
      rcases List.mem_cons.mp member with rfl | inRest
      · exact List.subset_append_left _ _
      · exact List.Subset.trans (ih inRest) (List.subset_append_right _ _)

theorem nodes_subset_of_mem_entries {entry : Node × Node} {entries : List (Node × Node)}
    (member : entry ∈ entries) :
    entry.1.nodes ⊆ nodesOfEntries entries ∧ entry.2.nodes ⊆ nodesOfEntries entries := by
  induction entries with
  | nil => cases member
  | cons first rest ih =>
      rw [nodesOfEntries, List.append_assoc]
      rcases List.mem_cons.mp member with rfl | inRest
      · exact ⟨List.subset_append_left _ _,
          List.Subset.trans (List.subset_append_left _ _) (List.subset_append_right _ _)⟩
      · have later : nodesOfEntries rest ⊆ first.1.nodes ++ (first.2.nodes ++ nodesOfEntries rest) :=
          List.Subset.trans (List.subset_append_right _ _) (List.subset_append_right _ _)
        exact ⟨List.Subset.trans (ih inRest).1 later, List.Subset.trans (ih inRest).2 later⟩

theorem depth_le_of_mem_items {item : Node} {items : List Node} (member : item ∈ items) :
    item.depth ≤ depthOfItems items := by
  induction items with
  | nil => cases member
  | cons first rest ih =>
      rw [depthOfItems]
      rcases List.mem_cons.mp member with rfl | inRest
      · exact Nat.le_max_left _ _
      · exact Nat.le_trans (ih inRest) (Nat.le_max_right _ _)

theorem depth_le_of_mem_entries {entry : Node × Node} {entries : List (Node × Node)}
    (member : entry ∈ entries) :
    entry.1.depth ≤ depthOfEntries entries ∧ entry.2.depth ≤ depthOfEntries entries := by
  induction entries with
  | nil => cases member
  | cons first rest ih =>
      rw [depthOfEntries]
      rcases List.mem_cons.mp member with rfl | inRest
      · omega
      · have := ih inRest
        omega

theorem one_le_depth (node : Node) : 1 ≤ node.depth := by
  cases node <;> simp [Node.depth]

mutual

/-- A node with a cycle has one among its nodes. -/
theorem cycle_mem_nodes : ∀ {node : Node}, node.hasCycle = true → .cycle ∈ node.nodes
  | .sequence _ _, cyclic => List.mem_cons_of_mem _ (cycle_mem_nodesOfItems cyclic)
  | .mapping _ _, cyclic => List.mem_cons_of_mem _ (cycle_mem_nodesOfEntries cyclic)
  | .cycle, _ => List.mem_singleton_self _

theorem cycle_mem_nodesOfItems : ∀ {items : List Node}, cycleInItems items = true →
    .cycle ∈ nodesOfItems items
  | first :: rest, cyclic => by
      rw [cycleInItems, Bool.or_eq_true] at cyclic
      rw [nodesOfItems, List.mem_append]
      exact cyclic.imp cycle_mem_nodes cycle_mem_nodesOfItems

theorem cycle_mem_nodesOfEntries : ∀ {entries : List (Node × Node)},
    cycleInEntries entries = true → .cycle ∈ nodesOfEntries entries
  | (key, value) :: rest, cyclic => by
      rw [cycleInEntries, Bool.or_eq_true, Bool.or_eq_true] at cyclic
      rw [nodesOfEntries, List.mem_append, List.mem_append]
      exact cyclic.imp (Or.imp cycle_mem_nodes cycle_mem_nodes) cycle_mem_nodesOfEntries

end

/-! ## Plain keys -/

theorem kindOf?_standardTag (kind : Text) : kindOf? (standardTag kind) = some kind := by
  have cut (start : Text) : (if (start ++ kind).startsWith start then
      some ((start ++ kind).drop start.length) else none) = some kind := by
    have begins : (start ++ kind).startsWith start = true :=
      List.isPrefixOf_iff_prefix.mpr (List.prefix_append start kind)
    rw [if_pos begins, List.drop_left]
  have start : standardTag kind = standardTag [] ++ kind := by
    unfold standardTag
    rw [List.append_nil]
  rw [start]
  exact cut (standardTag [])

/-- A default key that counts as a text has the nodes inside it that it had. -/
theorem nodes_plainKey (key : Node) :
    ∃ inside, (plainKey key).nodes = plainKey key :: inside ∧ key.nodes = key :: inside := by
  cases key with
  | scalar tag text =>
      rw [plainKey]
      split <;> exact ⟨[], rfl, rfl⟩
  | sequence tag items =>
      rw [plainKey]
      split <;> exact ⟨nodesOfItems items, rfl, rfl⟩
  | mapping tag entries =>
      rw [plainKey]
      split <;> exact ⟨nodesOfEntries entries, rfl, rfl⟩
  | cycle => exact ⟨[], rfl, rfl⟩

theorem depth_plainKey (key : Node) : (plainKey key).depth = key.depth := by
  cases key with
  | cycle => rfl
  | _ =>
      rw [plainKey]
      split <;> rfl

/-- The default key is a text; other keys are what they are. -/
theorem plainKey_cases (key : Node) :
    plainKey key = key ∨ (plainKey key).tag = standardTag "str" ∧ key ≠ .cycle := by
  cases key with
  | cycle => exact .inl rfl
  | _ =>
      rw [plainKey]
      split
      · exact .inr ⟨rfl, nofun⟩
      · exact .inl rfl

theorem isUnprepared_of_plainKey {key : Node} (unprepared : IsUnprepared (plainKey key).nodes) :
    IsUnprepared key.nodes := by
  obtain ⟨inside, plain, own⟩ := nodes_plainKey key
  rw [own]
  rw [plain] at unprepared
  rcases plainKey_cases key with same | ⟨tagged, _⟩
  · rwa [same] at unprepared
  obtain ⟨node, member, reason⟩ := unprepared
  rcases List.mem_cons.mp member with rfl | inInside
  · have kind := kindOf?_standardTag "str"
    rw [← tagged] at kind
    rcases reason with (⟨asked, _, none⟩ | ⟨asked, _, _⟩) | cycle
    · rw [kind] at asked
      cases asked
      cases none
    · rw [kind] at asked
      cases asked
    · rw [cycle] at tagged
      cases tagged
  · exact ⟨node, List.mem_cons_of_mem key inInside, reason⟩

/-! ## Computations with unforeseen ends -/

/-- Results have a property, and an unforeseen end has a reason. -/
inductive Foresees {α : Type} (reason : Prop) (holds : α → Prop) : Except Stop α → Prop
  | ok {value : α} (held : holds value) : Foresees reason holds (.ok value)
  | refused (fault : Fault) : Foresees reason holds (.error (.fault fault))
  | unforeseen (because : reason) : Foresees reason holds (.error .unforeseen)

namespace Foresees

variable {α β : Type} {reason : Prop} {holds : α → Prop} {other : β → Prop}

theorem bind {computed : Except Stop α} {next : α → Except Stop β}
    (first : Foresees reason holds computed)
    (later : ∀ value, holds value → Foresees reason other (next value)) :
    Foresees reason other (computed >>= next) := by
  cases first with
  | ok held => exact later _ held
  | refused fault => exact .refused fault
  | unforeseen because => exact .unforeseen because

theorem mapM {step : α → Except Stop β} {list : List α}
    (each : ∀ element ∈ list, Foresees reason other (step element)) :
    Foresees reason (fun results => ∀ result ∈ results, other result) (list.mapM step) := by
  induction list with
  | nil => exact .ok nofun
  | cons first rest ih =>
      rw [List.mapM_cons]
      refine (each first List.mem_cons_self).bind fun head held => ?_
      refine (ih fun element member => each element (List.mem_cons_of_mem first member)).bind
        fun tail allHeld => .ok ?_
      exact List.forall_mem_cons.mpr ⟨held, allHeld⟩

theorem held {value : α} (foresees : Foresees reason holds (.ok value)) : holds value := by
  cases foresees
  assumption

theorem because (foresees : Foresees reason holds (.error .unforeseen)) : reason := by
  cases foresees
  assumption

theorem imp {otherReason : Prop} {weaker : α → Prop} {computed : Except Stop α}
    (foresees : Foresees reason holds computed) (because : reason → otherReason)
    (weaken : ∀ value, holds value → weaker value) :
    Foresees otherReason weaker computed := by
  cases foresees with
  | ok held => exact .ok (weaken _ held)
  | refused fault => exact .refused fault
  | unforeseen held => exact .unforeseen (because held)

end Foresees

/-! ## Merged entries -/

/-- The node is among others of this depth, which are unprepared if it is. -/
structure Node.IsAmong (node : Node) (depth : Nat) (reason : Prop) : Prop where
  depth : node.depth ≤ depth
  unprepared : IsUnprepared node.nodes → reason

/-- The keys and values of the entries are among others of this depth. -/
def AreAmong (depth : Nat) (reason : Prop) (entries : List (Node × Node)) : Prop :=
  ∀ entry ∈ entries, entry.1.IsAmong depth reason ∧ entry.2.IsAmong depth reason

theorem AreAmong.mono {depth greater : Nat} {reason weaker : Prop} {entries : List (Node × Node)}
    (among : AreAmong depth reason entries) (bound : depth ≤ greater) (because : reason → weaker) :
    AreAmong greater weaker entries := fun entry member =>
  have ⟨key, value⟩ := among entry member
  ⟨⟨Nat.le_trans key.depth bound, because ∘ key.unprepared⟩,
    ⟨Nat.le_trans value.depth bound, because ∘ value.unprepared⟩⟩

theorem areAmong_self (entries : List (Node × Node)) :
    AreAmong (depthOfEntries entries) (IsUnprepared (nodesOfEntries entries)) entries :=
  fun _ member =>
    have depths := depth_le_of_mem_entries member
    have inside := nodes_subset_of_mem_entries member
    ⟨⟨depths.1, .mono inside.1⟩, ⟨depths.2, .mono inside.2⟩⟩

theorem Node.IsAmong.plainKey {key : Node} {depth : Nat} {reason : Prop}
    (among : key.IsAmong depth reason) : (Yaml.plainKey key).IsAmong depth reason :=
  ⟨depth_plainKey key ▸ among.depth, among.unprepared ∘ isUnprepared_of_plainKey⟩

/-- What merge keys bring comes from nodes inside, if it does from each of their values. -/
theorem foresees_flattened {fuel : Nat}
    (merges : ∀ node : Node, node.depth ≤ fuel → Foresees (IsUnprepared node.nodes)
      (AreAmong node.depth (IsUnprepared node.nodes)) (mergedEntries fuel node))
    {entries : List (Node × Node)} (bounded : depthOfEntries entries ≤ fuel) :
    Foresees (IsUnprepared (nodesOfEntries entries))
      (AreAmong (depthOfEntries entries) (IsUnprepared (nodesOfEntries entries)))
      (mergedEntries.flattened fuel entries) := by
  have inside := areAmong_self entries
  have brought : ∀ entry ∈ entries.filter fun entry => entry.1.tag == standardTag "merge",
      Foresees (IsUnprepared (nodesOfEntries entries))
        (AreAmong (depthOfEntries entries) (IsUnprepared (nodesOfEntries entries)))
        (mergedEntries fuel entry.2) := by
    intro entry member
    have value := (inside entry (List.mem_of_mem_filter member)).2
    exact (merges entry.2 (Nat.le_trans value.depth bounded)).imp value.unprepared
      fun _ brought => brought.mono value.depth value.unprepared
  unfold mergedEntries.flattened
  refine (Foresees.mapM brought).bind fun merged among => .ok ?_
  intro entry member
  rcases List.mem_append.mp member with merged | own
  · obtain ⟨part, inMerged, inPart⟩ := List.mem_flatten.mp merged
    exact among part inMerged entry inPart
  · obtain ⟨source, inFilter, rfl⟩ := List.mem_map.mp own
    obtain ⟨key, value⟩ := inside source (List.mem_of_mem_filter inFilter)
    exact ⟨key.plainKey, value⟩

theorem foresees_mergedEntries (fuel : Nat) (node : Node) (bounded : node.depth ≤ fuel) :
    Foresees (IsUnprepared node.nodes) (AreAmong node.depth (IsUnprepared node.nodes))
      (mergedEntries fuel node) := by
  induction fuel generalizing node with
  | zero => exact absurd (one_le_depth node) (by omega)
  | succ fuel ih =>
      have inMapping {tag : Text} {entries : List (Node × Node)} {depth : Nat} {reason : Prop}
          (among : (Node.mapping tag entries).IsAmong depth reason) (bounded : depth ≤ fuel + 1) :
          Foresees reason (AreAmong depth reason) (mergedEntries.flattened fuel entries) := by
        have height : depthOfEntries entries + 1 ≤ depth := among.depth
        have because : IsUnprepared (nodesOfEntries entries) → reason := fun unprepared =>
          among.unprepared (unprepared.mono (List.subset_cons_self _ _))
        exact (foresees_flattened ih (by omega)).imp because fun _ brought =>
          brought.mono (by omega) because
      unfold mergedEntries
      cases node with
      | scalar tag text => exact .refused _
      | cycle => exact .unforeseen ⟨.cycle, List.mem_singleton_self _, .inr rfl⟩
      | mapping tag entries => exact inMapping ⟨Nat.le_refl _, id⟩ bounded
      | sequence tag items =>
          have together (parts : List (List (Node × Node)))
              (among : ∀ part ∈ parts, AreAmong (Node.sequence tag items).depth
                (IsUnprepared (Node.sequence tag items).nodes) part) :
              Foresees (IsUnprepared (Node.sequence tag items).nodes)
                (AreAmong (Node.sequence tag items).depth
                  (IsUnprepared (Node.sequence tag items).nodes)) (pure parts.reverse.flatten) := by
            refine .ok fun entry member => ?_
            obtain ⟨part, inParts, inPart⟩ := List.mem_flatten.mp member
            exact among part (List.mem_reverse.mp inParts) entry inPart
          refine (Foresees.mapM fun item member => ?_).bind together
          have inner : item.nodes ⊆ (Node.sequence tag items).nodes :=
            List.Subset.trans (nodes_subset_of_mem_items member) (List.subset_cons_self _ _)
          have height : item.depth ≤ (Node.sequence tag items).depth :=
            Nat.le_succ_of_le (depth_le_of_mem_items member)
          cases item with
          | mapping tag entries => exact inMapping ⟨height, .mono inner⟩ bounded
          | cycle => exact .unforeseen ⟨.cycle, inner (List.mem_singleton_self _), .inr rfl⟩
          | scalar tag text => exact .refused _
          | sequence tag items => exact .refused _

/-! ## Values -/

/-- The making of a value stops somewhere if it stops, and unforeseen content has a reason. -/
inductive Blames {α : Type} (reason : Prop) : Except Stops α → Prop
  | ok (value : α) : Blames reason (.ok value)
  | stopped {stops : Stops} (some : stops ≠ [])
      (because : ∀ depth, (depth, Stop.unforeseen) ∈ stops → reason) : Blames reason (.error stops)

namespace Blames

variable {α β : Type} {reason : Prop}

theorem stopAt {depth : Nat} {stop : Stop} (because : stop = .unforeseen → reason) :
    Blames (α := α) reason (stopAt depth stop) := by
  refine .stopped (List.cons_ne_nil _ _) fun _ member => because ?_
  exact (Prod.mk.inj (List.mem_singleton.mp member)).2.symm

theorem faultAt (depth : Nat) (fault : Fault) :
    Blames (α := α) reason (Yaml.stopAt depth (.fault fault)) :=
  stopAt Stop.noConfusion

theorem map {result : Except Stops α} (function : α → β) (blames : Blames reason result) :
    Blames reason (result.map function) := by
  cases blames with
  | ok value => exact .ok (function value)
  | stopped some because => exact .stopped some because

theorem both {first : Except Stops α} {second : Except Stops β} (one : Blames reason first)
    (other : Blames reason second) : Blames reason (both first second) := by
  cases one with
  | ok value =>
      cases other with
      | ok value => exact .ok _
      | stopped some because => exact .stopped some because
  | stopped some because =>
      cases other with
      | ok value => exact .stopped some because
      | stopped _ otherwise =>
          refine .stopped (List.append_ne_nil_of_left_ne_nil some _) fun depth member => ?_
          exact (List.mem_append.mp member).elim (because depth) (otherwise depth)

theorem every {results : List (Except Stops α)} (each : ∀ result ∈ results, Blames reason result) :
    Blames reason (every results) := by
  induction results with
  | nil => exact .ok []
  | cons first rest ih =>
      rw [List.forall_mem_cons] at each
      exact (each.1.both (ih each.2)).map _

theorem imp {weaker : Prop} {result : Except Stops α} (blames : Blames reason result)
    (weaken : reason → weaker) : Blames weaker result := by
  cases blames with
  | ok value => exact .ok value
  | stopped some because => exact .stopped some fun depth member => weaken (because depth member)

end Blames

theorem foldl_min_mem (least : Nat) (numbers : List Nat) :
    numbers.foldl min least ∈ least :: numbers := by
  induction numbers generalizing least with
  | nil => exact List.mem_singleton_self least
  | cons first rest ih =>
      rw [List.foldl_cons]
      rcases List.mem_cons.mp (ih (min least first)) with same | inRest
      · rw [same]
        rcases Nat.le_total least first with lower | lower
        · rw [Nat.min_eq_left lower]
          exact List.mem_cons_self
        · rw [Nat.min_eq_right lower]
          exact List.mem_cons_of_mem _ List.mem_cons_self
      · exact List.mem_cons_of_mem _ (List.mem_cons_of_mem _ inRest)

/-- The first stop is one of those there are. -/
theorem firstStop_mem {stops : Stops} (some : stops ≠ []) :
    ∃ depth, (depth, firstStop stops) ∈ stops := by
  obtain ⟨⟨depth, stop⟩, rest, rfl⟩ := List.exists_cons_of_ne_nil some
  have among := foldl_min_mem depth (((depth, stop) :: rest).map (·.1))
  obtain ⟨entry, member, least⟩ : ∃ entry ∈ (depth, stop) :: rest,
      entry.1 = (((depth, stop) :: rest).map (·.1)).foldl min depth := by
    rcases List.mem_cons.mp among with same | inMap
    · exact ⟨(depth, stop), List.mem_cons_self, same.symm⟩
    · exact List.mem_map.mp inMap
  unfold firstStop
  dsimp only [List.headD_cons]
  cases found : ((depth, stop) :: rest).find?
      (·.1 == (((depth, stop) :: rest).map (·.1)).foldl min depth) with
  | none => exact absurd (beq_iff_eq.mpr least) (List.find?_eq_none.mp found entry member)
  | some first => exact ⟨first.1, List.mem_of_find?_eq_some found⟩

theorem mem_nodes_self (node : Node) : node ∈ node.nodes := by
  cases node <;> exact List.mem_cons_self

/-- A node with the tag of a scalar has its text as value, or lacks a value. -/
theorem blames_scalarValue {node : Node} {kind : Text} (tagged : kindOf? node.tag = some kind)
    (depth : Nat) :
    Blames (IsUnprepared node.nodes) (valueIn.scalarValue depth kind node) := by
  have lacking (lacks : node.LacksValue) : IsUnprepared node.nodes :=
    ⟨node, mem_nodes_self node, .inl lacks⟩
  unfold valueIn.scalarValue
  split
  · exact .faultAt _ _
  · next text spelled =>
      split
      · exact .ok _
      · next scalar own _ =>
          split
          · next moment =>
              refine .stopAt fun _ => lacking (.held (moment ▸ tagged) spelled ?_)
              rintro tag text rfl
              exact own tag text rfl
          · exact .ok _
      · next stop read =>
          exact .stopAt fun same =>
            lacking (.unread tagged spelled (spellsNone_of_scalarOf (same ▸ read)))

theorem kindOf?_of_scalarKinds {node : Node}
    (listed : scalarKinds.contains ((kindOf? node.tag).getD []) = true) :
    kindOf? node.tag = some ((kindOf? node.tag).getD []) := by
  cases tagged : kindOf? node.tag with
  | some kind => rfl
  | none =>
      rw [tagged] at listed
      exact absurd listed (by decide)

theorem blames_keyOf {depth : Nat} {reason : Prop} {result : Except Stops Value}
    (blames : Blames reason result) : Blames reason (keyOf depth result) := by
  cases blames with
  | stopped some because => exact .stopped some because
  | ok value =>
      cases value with
      | scalar key => exact .ok key
      | _ => exact .faultAt _ _

theorem blames_keyValue {fuel depth : Nat} {key : Node} {reason : Prop}
    (value : Blames reason (valueIn fuel depth key)) :
    Blames reason (valueIn.keyValue fuel depth key) := by
  unfold valueIn.keyValue
  dsimp only
  split
  · exact .faultAt _ _
  · exact value

theorem isAmong_of_mem_items {tag : Text} {items : List Node} {item : Node} {fuel : Nat}
    (member : item ∈ items) (bounded : (Node.sequence tag items).depth ≤ fuel + 1) :
    item.IsAmong fuel (IsUnprepared (Node.sequence tag items).nodes) :=
  ⟨Nat.le_trans (depth_le_of_mem_items member) (Nat.le_of_succ_le_succ bounded),
    .mono (List.Subset.trans (nodes_subset_of_mem_items member) (List.subset_cons_self _ _))⟩

theorem areAmong_of_mapping {tag : Text} {entries : List (Node × Node)} {fuel : Nat}
    (bounded : (Node.mapping tag entries).depth ≤ fuel + 1) :
    AreAmong fuel (IsUnprepared (Node.mapping tag entries).nodes) entries :=
  (areAmong_self entries).mono (Nat.le_of_succ_le_succ bounded) (.mono (List.subset_cons_self _ _))

/-- The entries of a mapping together with the merged ones come from nodes inside. -/
theorem foresees_flattened_of_mapping {tag : Text} {entries : List (Node × Node)} {fuel : Nat}
    (bounded : (Node.mapping tag entries).depth ≤ fuel + 1) :
    Foresees (IsUnprepared (Node.mapping tag entries).nodes)
      (AreAmong fuel (IsUnprepared (Node.mapping tag entries).nodes))
      (mergedEntries.flattened (Node.mapping tag entries).depth entries) := by
  have because : IsUnprepared (nodesOfEntries entries) →
      IsUnprepared (Node.mapping tag entries).nodes := .mono (List.subset_cons_self _ _)
  exact (foresees_flattened (foresees_mergedEntries _) (Nat.le_succ _)).imp because
    fun _ among => among.mono (Nat.le_of_succ_le_succ bounded) because

/-- The making of a node's value stops in an unforeseen way only at a node that lacks a value, or at
one that stands inside itself. -/
theorem blames_valueIn (fuel depth : Nat) (node : Node) (bounded : node.depth ≤ fuel) :
    Blames (IsUnprepared node.nodes) (valueIn fuel depth node) := by
  induction fuel generalizing depth node with
  | zero => exact absurd (one_le_depth node) (by omega)
  | succ fuel ih =>
      have inside {inner : Node} {reason : Prop} (among : inner.IsAmong fuel reason) (depth : Nat) :
          Blames reason (valueIn fuel depth inner) :=
        (ih depth inner among.depth).imp among.unprepared
      unfold valueIn
      dsimp only
      split
      · exact .ok _
      split
      · next listed => exact blames_scalarValue (kindOf?_of_scalarKinds listed) depth
      split
      · split
        · refine Blames.map _ (.every fun result member => ?_)
          obtain ⟨item, inItems, rfl⟩ := List.mem_map.mp member
          exact inside (isAmong_of_mem_items inItems bounded) _
        · exact .faultAt _ _
      split
      · split
        · next tag entries _ =>
            have foresees := foresees_flattened_of_mapping bounded
            split
            · next stop stopped =>
                rw [stopped] at foresees
                exact .stopAt fun same => (same ▸ foresees).because
            · next merged brought =>
                rw [brought] at foresees
                refine Blames.map _ (.every fun result member => ?_)
                obtain ⟨entry, inMerged, rfl⟩ := List.mem_map.mp member
                obtain ⟨key, value⟩ := foresees.held entry inMerged
                exact .both (blames_keyOf (blames_keyValue (inside key _))) (inside value _)
        · exact .faultAt _ _
      split
      · split
        · refine Blames.map _ (.every fun result member => ?_)
          obtain ⟨item, inItems, rfl⟩ := List.mem_map.mp member
          have among := isAmong_of_mem_items inItems bounded
          split
          · next tag key value =>
              obtain ⟨first, second⟩ := ((areAmong_of_mapping (Nat.le_succ_of_le among.depth)).mono
                (Nat.le_refl _) among.unprepared) (key, value) List.mem_cons_self
              exact .map _ (.both (inside first _) (inside second _))
          · exact .faultAt _ _
        · exact .faultAt _ _
      · exact .faultAt _ _

/-! ## The parser -/

/-- The computation has a result or ends with a fault. -/
abbrev EndsForeseen {α : Type} (computed : Except Stop α) : Prop :=
  Foresees False (fun _ => True) computed

theorem EndsForeseen.andThen {α β : Type} {computed : Except Stop α} {next : α → Except Stop β}
    (first : EndsForeseen computed) (later : ∀ value, EndsForeseen (next value)) :
    EndsForeseen (computed >>= next) :=
  first.bind fun value _ => later value

theorem endsForeseen_fullTag (handles : Handles) (tagged : Option (Option Text × Text)) :
    EndsForeseen (fullTag handles tagged) := by
  unfold fullTag
  split
  · exact .ok trivial
  · exact .ok trivial
  · split
    · exact .ok trivial
    · exact .refused _

theorem endsForeseen_checkAnchor (anchor : Option Text) (rest : Rest) :
    EndsForeseen (checkAnchor anchor rest) := by
  unfold checkAnchor
  split
  · split
    · exact .refused _
    · exact .ok trivial
  · exact .ok trivial

theorem endsForeseen_emptyNode (anchor tag : Option Text) (rest : Rest) :
    EndsForeseen (readNode.emptyNode anchor tag rest) := by
  unfold readNode.emptyNode
  split
  · exact .refused _
  · exact (endsForeseen_checkAnchor anchor rest).andThen fun _ => .ok trivial

/-- Whatever the parser reads with this fuel has a result or ends with a fault. -/
structure ReadsForeseen (handles : Handles) (fuel : Nat) : Prop where
  node (place : Place) (rest : Rest) : EndsForeseen (readNode handles place fuel rest)
  nodeUnless (place : Place) (ends : List Token) (rest : Rest) :
    EndsForeseen (readNodeUnless handles place ends fuel rest)
  blockItems (rest : Rest) : EndsForeseen (readBlockItems handles fuel rest)
  indentless (rest : Rest) : EndsForeseen (readIndentless handles fuel rest)
  blockEntries (rest : Rest) : EndsForeseen (readBlockEntries handles fuel rest)
  flowItems (isFirst : Bool) (rest : Rest) : EndsForeseen (readFlowItems handles isFirst fuel rest)
  flowPair (rest : Rest) : EndsForeseen (readFlowPair handles fuel rest)
  flowEntries (isFirst : Bool) (rest : Rest) :
    EndsForeseen (readFlowEntries handles isFirst fuel rest)

theorem endsForeseen_readNode {handles : Handles} {fuel : Nat} (reads : ReadsForeseen handles fuel)
    (place : Place) (rest : Rest) : EndsForeseen (readNode handles place (fuel + 1) rest) := by
  unfold readNode
  split
  · split
    · exact .ok trivial
    · exact .ok trivial
    · exact .refused _
  · refine (endsForeseen_fullTag _ _).andThen fun tag => ?_
    have checked (anchor : Option Text) (rest : Rest) {α : Type} {next : Unit → Except Stop α}
        (later : ∀ value, EndsForeseen (next value)) :
        EndsForeseen (checkAnchor anchor rest >>= next) :=
      (endsForeseen_checkAnchor anchor rest).andThen later
    split
    · exact checked _ _ fun _ => .ok trivial
    · split
      · exact checked _ _ fun _ => (reads.indentless _).andThen fun _ => .ok trivial
      · exact endsForeseen_emptyNode _ _ _
    · exact checked _ _ fun _ => (reads.flowItems _ _).andThen fun _ => .ok trivial
    · exact checked _ _ fun _ => (reads.flowEntries _ _).andThen fun _ => .ok trivial
    · split
      · exact endsForeseen_emptyNode _ _ _
      · exact checked _ _ fun _ => (reads.blockItems _).andThen fun _ => .ok trivial
    · split
      · exact endsForeseen_emptyNode _ _ _
      · exact checked _ _ fun _ => (reads.blockEntries _).andThen fun _ => .ok trivial
    · exact endsForeseen_emptyNode _ _ _

theorem readsForeseen (handles : Handles) (fuel : Nat) : ReadsForeseen handles fuel := by
  induction fuel with
  | zero =>
      constructor <;> intros <;> exact .refused _
  | succ fuel reads =>
      -- The value of an entry, and what goes on with it.
      have valueThen (place : Place) (ends : List Token) (rest : Rest) {α : Type}
          {next : Node × Rest → Except Stop α} (later : ∀ value, EndsForeseen (next value)) :
          EndsForeseen (if rest.sees [.value] then
            readNodeUnless handles place ends fuel rest.next >>= next
            else pure (.empty, rest) >>= next) := by
        split
        · exact (reads.nodeUnless _ _ _).andThen later
        · exact later _
      constructor
      case node => exact endsForeseen_readNode reads
      case nodeUnless =>
        intro place ends rest
        unfold readNodeUnless
        split
        · exact .ok trivial
        · exact reads.node _ _
      case blockItems =>
        intro rest
        unfold readBlockItems
        split
        · exact (reads.nodeUnless _ _ _).andThen fun _ =>
            (reads.blockItems _).andThen fun _ => .ok trivial
        · split
          · exact .ok trivial
          · exact .refused _
      case indentless =>
        intro rest
        unfold readIndentless
        split
        · exact (reads.nodeUnless _ _ _).andThen fun _ =>
            (reads.indentless _).andThen fun _ => .ok trivial
        · exact .ok trivial
      case blockEntries =>
        intro rest
        unfold readBlockEntries
        split
        · refine (reads.nodeUnless _ _ _).andThen fun _ => ?_
          refine valueThen _ _ _ fun _ => ?_
          exact (reads.blockEntries _).andThen fun _ => .ok trivial
        · split
          · exact .ok trivial
          · exact .refused _
      case flowItems =>
        intro isFirst rest
        unfold readFlowItems
        have others (item : Node × Rest) :
            EndsForeseen (readFlowItems handles false fuel item.2 >>= fun later =>
              pure (item.1 :: later.1, later.2)) :=
          (reads.flowItems _ _).andThen fun _ => .ok trivial
        split
        · exact .ok trivial
        split
        · exact .refused _
        dsimp only
        generalize (if isFirst = true then rest else rest.next) = rest
        split
        · exact .ok trivial
        split
        · exact (reads.flowPair _).andThen others
        · exact (reads.node _ _).andThen others
      case flowPair =>
        intro rest
        unfold readFlowPair
        refine (reads.nodeUnless _ _ _).andThen fun _ => ?_
        exact valueThen _ _ _ fun _ => .ok trivial
      case flowEntries =>
        intro isFirst rest
        unfold readFlowEntries
        have others (entry : (Node × Node) × Rest) :
            EndsForeseen (readFlowEntries handles false fuel entry.2 >>= fun later =>
              pure (entry.1 :: later.1, later.2)) :=
          (reads.flowEntries _ _).andThen fun _ => .ok trivial
        split
        · exact .ok trivial
        split
        · exact .refused _
        dsimp only
        generalize (if isFirst = true then rest else rest.next) = rest
        split
        · exact .ok trivial
        split
        · refine (reads.nodeUnless _ _ _).andThen fun _ => ?_
          exact valueThen _ _ _ fun _ => others _
        · exact (reads.node _ _).andThen fun _ => others _

theorem endsForeseen_readDirectives (versioned : Bool) (handles : Handles) (tokens : List Token) :
    EndsForeseen (readDirectives versioned handles tokens) := by
  fun_induction readDirectives versioned handles tokens with
  | case1 | case3 => exact .refused _
  | case2 | case4 | case5 => assumption
  | case6 => exact .ok trivial

theorem endsForeseen_checkEnd (tokens : List Token) : EndsForeseen (checkEnd tokens) := by
  unfold checkEnd
  split
  · exact .ok trivial
  · exact .refused _

theorem endsForeseen_readDocument (handles : Handles) (mayBeBare : Bool) (tokens : List Token) :
    EndsForeseen (readDocument handles mayBeBare tokens) := by
  unfold readDocument
  split
  · exact (endsForeseen_checkEnd tokens).andThen fun _ => .ok trivial
  · refine ((readsForeseen handles _).node _ _).andThen fun _ => ?_
    exact (endsForeseen_checkEnd _).andThen fun _ => .ok trivial

theorem endsForeseen_ofTokens? (tokens : List Token) : EndsForeseen (Node.ofTokens? tokens) := by
  have document (handles : Handles) (mayBeBare : Bool) (tokens : List Token) :
      EndsForeseen (some <$> readDocument handles mayBeBare tokens) := by
    rw [map_eq_pure_bind]
    exact (endsForeseen_readDocument _ _ _).andThen fun _ => .ok trivial
  have explicit : EndsForeseen (Node.ofTokens?.explicit tokens) := by
    refine (endsForeseen_readDirectives _ _ _).andThen fun ⟨handles, others⟩ => ?_
    dsimp only
    split
    · exact document _ _ _
    · exact .refused _
  unfold Node.ofTokens?
  split
  · exact .ok trivial
  · exact explicit
  · exact explicit
  · exact document _ _ _

/-! ## Reading -/

/-- Why a text stops the reader in a way that is not foreseen: its lexer stops so, or the document
has a node that lacks a value or that stands inside itself. -/
inductive UnpreparedFor (text : Text) : Prop
  | token (lexed : (tokens text).2 = some .unforeseen) : UnpreparedFor text
  | node {node inner : Node} (composed : Node.ofText? text = .ok (some node))
      (inside : inner ∈ node.nodes) (lacks : inner.LacksValue) : UnpreparedFor text
  | cycle {node : Node} (composed : Node.ofText? text = .ok (some node))
      (inside : .cycle ∈ node.nodes) : UnpreparedFor text

theorem unpreparedFor_of_isUnprepared {text : Text} {node : Node}
    (composed : Node.ofText? text = .ok (some node)) (unprepared : IsUnprepared node.nodes) :
    UnpreparedFor text := by
  obtain ⟨inner, inside, lacks | rfl⟩ := unprepared
  · exact .node composed inside lacks
  · exact .cycle composed inside

theorem unpreparedFor_of_read {text : Text} (stopped : read text = .error .unforeseen) :
    UnpreparedFor text := by
  unfold read at stopped
  split at stopped
  · next stop composed =>
      cases stopped
      unfold Node.ofText? at composed
      split at composed
      · cases composed
      · have parsed := endsForeseen_ofTokens? (tokens text).1
        split at composed
        · next list _ lexed =>
            rw [lexed, composed] at parsed
            exact parsed.because.elim
        · next lexed =>
            cases composed
            exact .token (congrArg Prod.snd lexed)
  · cases stopped
  · next node composed =>
      refine unpreparedFor_of_isUnprepared composed ?_
      split at stopped
      · split at stopped
        · next cyclic => exact ⟨.cycle, cycle_mem_nodes cyclic, .inr rfl⟩
        · cases stopped
      · next stops made =>
          have blames := blames_valueIn node.depth 0 node (Nat.le_refl _)
          rw [made] at blames
          cases blames with
          | stopped some because =>
              obtain ⟨depth, first⟩ := firstStop_mem some
              rw [Except.error.inj stopped] at first
              exact because depth first

/-! ## Documents of one scalar -/

theorem scalarOf_of_spellsNone {kind text : Text} (none : SpellsNone text kind) :
    scalarOf kind text = .error .unforeseen := by
  cases none with
  | truth none => simp [scalarOf, none]
  | whole none => simp [scalarOf, none]
  | decimal none => simp [scalarOf, none]
  | moment none => simp [scalarOf, none]

/-- A scalar that lacks a value stops the reader where it is the whole document. -/
theorem read_of_spellsNone {text kind spelled : Text}
    (composed : Node.ofText? text = .ok (some (.scalar (standardTag kind) spelled)))
    (none : SpellsNone spelled kind) : Yaml.read text = .error .unforeseen := by
  have listed : scalarKinds.contains kind = true := by cases none <;> decide
  have value : valueIn 1 0 (.scalar (standardTag kind) spelled) = .error [(0, .unforeseen)] := by
    unfold valueIn
    dsimp only [Node.tag]
    rw [kindOf?_standardTag, Option.getD_some, if_pos listed]
    unfold valueIn.scalarValue
    dsimp only [Node.depth, textOf?]
    rw [scalarOf_of_spellsNone none]
    rfl
  rw [Yaml.read, composed]
  dsimp only [Node.depth]
  rw [value]
  rfl

/-- The text is a document of this scalar. -/
def isScalar (tag spelled : Text) : Except Stop (Option Node) → Bool
  | .ok (some (.scalar ownTag own)) => ownTag == tag && own == spelled
  | _ => false

theorem eq_scalar_of_isScalar {tag spelled : Text} {composed : Except Stop (Option Node)}
    (checked : isScalar tag spelled composed = true) :
    composed = .ok (some (.scalar tag spelled)) := by
  unfold isScalar at checked
  split at checked
  · rw [Bool.and_eq_true, beq_iff_eq, beq_iff_eq] at checked
    rw [checked.1, checked.2]
  · cases checked

end ApiForge.Yaml
