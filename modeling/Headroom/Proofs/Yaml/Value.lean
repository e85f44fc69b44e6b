import Headroom.Proofs.Yaml.Merge

/-!
# Nodes that denote nothing

A node whose tag asks for a truth value, a number or a timestamp need not have a text that
is one.  Which texts denote nothing of their kind is a matter of the text alone; that a node
stands for such a text can be seen in the graph as it was composed, whatever was merged
since.
-/

namespace Headroom
namespace Yaml

/-- A text denotes nothing of the kind that a tag asks for. -/
def Tag.Refuses
    (tag : Tag)
    (node : NodeId)
    (text : Text)
    (fault : Fault) : Prop :=
  match tag with
  | .truth => Value.truthOf text = .error fault
  | .integer => Value.integerOf text = .error fault
  | .real => Value.realOf node text = .error fault
  | .timestamp => Value.timestampOf text = .error fault
  | _ => False

/-- Whether a tag asks for the text of a scalar, or may come to do so. -/
def Tag.asksForText : Tag → Bool
  | .null | .truth | .integer | .real | .binary | .timestamp | .text | .value => true
  | _ => false

namespace Graph

/-- A node may stand for a text: a scalar for its own, and a mapping for that of a scalar
that it has for its default value. -/
def MayShow
    (graph : Graph)
    (id : NodeId)
    (text : Text) : Prop :=
  ∃ source, (source = id ∨ graph.isMapping id = true) ∧
    (graph.node source).content = .scalar text

/-- A graph has a node that denotes nothing, or one that may lead too deep. -/
inductive HasUndefined (graph : Graph) : Fault → Prop
  | text
      {id : NodeId}
      {text : Text}
      {fault : Fault}
      (shown : graph.MayShow id text)
      (refused : (graph.node id).tag.Refuses id text fault) :
      HasUndefined graph fault
  /-- A mapping is to be a timestamp. -/
  | timestampOfRecord
      {id : NodeId}
      (mapping : graph.isMapping id = true)
      (tagged : (graph.node id).tag = .timestamp) :
      HasUndefined graph .timestampOfRecord
  /-- A mapping is to be a text, and leads from one default value to the next. -/
  | defaults
      {id : NodeId}
      (mapping : graph.isMapping id = true)
      (tagged : (graph.node id).tag.asksForText = true) :
      HasUndefined graph .tooDeep
  /-- A key is a merge mark, and mappings are merged one inside the other. -/
  | merges
      {key : NodeId}
      (marked : (graph.node key).tag = .merge) :
      HasUndefined graph .tooDeep

/-- What keeps the nodes of a graph from being given values. -/
def Resists
    (graph : Graph)
    (fault : Fault) : Prop :=
  fault = .malformed ∨ graph.HasUndefined fault

theorem Resists.malformed {graph : Graph} : graph.Resists .malformed :=
  .inl rfl

variable {original graph : Graph}

theorem Becomes.scalar_iff
    (becomes : original.Becomes graph)
    {id : NodeId}
    {text : Text} :
    (graph.node id).content = .scalar text ↔ (original.node id).content = .scalar text := by
  obtain same | ⟨_, _, old_eq, new_eq⟩ := (becomes id).content
  · rw [same]
  · simp [old_eq, new_eq]

theorem Becomes.tag
    (becomes : original.Becomes graph)
    {id : NodeId}
    (notText : (graph.node id).tag ≠ .text) :
    (original.node id).tag = (graph.node id).tag := by
  obtain same | ⟨_, new_eq⟩ := (becomes id).tag
  · exact same.symm
  · exact (notText new_eq).elim

theorem Becomes.asksForText
    (becomes : original.Becomes graph)
    {id : NodeId}
    (asks : (graph.node id).tag.asksForText = true) :
    (original.node id).tag.asksForText = true := by
  obtain same | ⟨old_eq, _⟩ := (becomes id).tag
  · rwa [← same]
  · rw [old_eq]
    rfl

/-- What keeps a graph from being merged keeps its nodes from being given values. -/
theorem ResistsMerging.resists
    {fault : Fault}
    (resists : graph.ResistsMerging fault) :
    graph.Resists fault := by
  obtain rfl | ⟨rfl, key, marked⟩ := resists
  · exact .malformed
  · exact .inr (.merges marked)

/-- A default value leads to the text of a scalar, unless it leads too deep. -/
theorem scalarText_meets
    (graph : Graph)
    (limit : Nat)
    (id : NodeId) :
    Meets (fun text => ∃ source, (graph.node source).content = .scalar text)
      (fun fault => fault = .malformed ∨ fault = .tooDeep)
      (graph.scalarText limit id) := by
  fun_induction scalarText graph limit id with
  | case1 limit id text content_eq => exact ⟨id, content_eq⟩
  | case2 | case3 => exact Or.inl rfl
  | case4 => exact Or.inr rfl
  | case5 _ _ _ _ _ _ _ inductionHypothesis => exact inductionHypothesis

/-- The text of a node is one that the node may stand for. -/
theorem scalarText_shown
    (becomes : original.Becomes graph)
    (limit : Nat)
    (id : NodeId) :
    Meets (original.MayShow id)
      (fun fault => fault = .malformed ∨
        (fault = .tooDeep ∧ original.isMapping id = true))
      (graph.scalarText limit id) := by
  cases content_eq : (graph.node id).content with
  | scalar text =>
      unfold scalarText
      rw [content_eq]
      exact ⟨id, .inl rfl, becomes.scalar_iff.mp content_eq⟩
  | sequence items =>
      unfold scalarText
      rw [content_eq]
      exact Or.inl rfl
  | mapping pairs =>
      have mapping : original.isMapping id = true := by
        rw [← becomes.isMapping]
        exact isMapping_iff.mpr ⟨pairs, content_eq⟩
      refine (scalarText_meets graph limit id).mono ?_ ?_
      · rintro text ⟨source, shown⟩
        exact ⟨source, .inr mapping, becomes.scalar_iff.mp shown⟩
      · rintro fault (malformed | tooDeep)
        · exact .inl malformed
        · exact .inr ⟨tooDeep, mapping⟩

theorem bytesOf_failsOnly (text : Text) : FailsOnly (· = .malformed) (Value.bytesOf text) := by
  unfold Value.bytesOf
  split
  · rfl
  · refine .ite ?_ rfl
    cases Base64.decode? _ with
    | none => rfl
    | some bytes => trivial

/-- A node is given a value, unless the graph resists that. -/
theorem value_failsOnly
    (becomes : original.Becomes graph)
    (limits : Limits)
    (id : NodeId) :
    FailsOnly original.Resists (graph.value limits id) := by
  have text {tag : Tag}
      (tagged : (graph.node id).tag = tag)
      (asks : tag.asksForText = true) :
      Meets (original.MayShow id) original.Resists (graph.scalarText limits.defaults id) := by
    refine (scalarText_shown becomes limits.defaults id).mono (fun _ shown => shown) ?_
    rintro fault (rfl | ⟨rfl, mapping⟩)
    · exact .malformed
    · exact .inr (.defaults mapping (becomes.asksForText (tagged ▸ asks)))
  have reading {tag : Tag} {β : Type} {attempt : Except Fault β} {chars : Text}
      (tagged : (graph.node id).tag = tag)
      (notText : tag ≠ .text)
      (shown : original.MayShow id chars)
      (refuses : ∀ fault, attempt = .error fault → tag.Refuses id chars fault) :
      FailsOnly original.Resists attempt := by
    refine (failsOnly_self attempt).mono (fun _ _ => trivial) fun fault failed => ?_
    refine .inr (.text shown ?_)
    rw [becomes.tag (tagged ▸ notText), tagged]
    exact refuses fault failed
  unfold value
  dsimp only
  cases tagged : (graph.node id).tag with
  | null => exact meets_bind.mpr ((text tagged rfl).imp fun _ _ => trivial)
  | text => exact (text tagged rfl).bind fun _ _ => trivial
  | truth =>
      exact (text tagged rfl).bind fun chars shown =>
        (reading tagged nofun shown fun _ refused => refused).bind fun _ _ => trivial
  | integer =>
      exact (text tagged rfl).bind fun chars shown =>
        (reading tagged nofun shown fun _ refused => refused).bind fun _ _ => trivial
  | real =>
      exact (text tagged rfl).bind fun chars shown =>
        reading tagged nofun shown fun _ refused => refused
  | binary =>
      refine (text tagged rfl).bind fun chars _ => ?_
      exact ((bytesOf_failsOnly chars).mono (fun _ _ => trivial) fun _ => .inl).bind
        fun _ _ => trivial
  | timestamp =>
      refine (text tagged rfl).bind fun chars shown => ?_
      split
      · exact (reading tagged nofun shown fun _ refused => refused).bind fun _ _ => trivial
      · rename_i notScalar
        obtain ⟨source, rfl | mapping, shows⟩ := shown
        · exact (notScalar chars (becomes.scalar_iff.mpr shows)).elim
        · exact .inr (.timestampOfRecord mapping ((becomes.tag (by simp [tagged])).trans tagged))
  | orderedMapping => trivial
  | pairs => trivial
  | set => trivial
  | sequence => trivial
  | mapping => trivial
  | merge => exact .malformed
  | value => exact .malformed
  | other => exact .malformed

end Graph
end Yaml
end Headroom
