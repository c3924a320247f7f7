import Dialback.Files.Tree
import Dialback.Proofs.Files.Ascent

/-!
The entries of the directories that paths lead to. A path with one more name shows something exactly
if its text is short enough, the way to the directory in front of it is open, that directory may be
searched and holds an entry of the name, and the entry is no link that leads nowhere.
-/
namespace Dialback.Files

/-- A name that leads down. -/
structure IsProper (name : String) : Prop where
  some : name ≠ ""
  here : name ≠ "."
  up : name ≠ ".."

/-- It stands for itself. -/
def Node.isSolid : Node → Bool
  | .file _ _ | .directory _ _ => true
  | .link _ | .lost _ => false

/-- Where components lead from a place if nothing is barred and any number of links is followed. -/
inductive Reaches (root : Node) : List String → List String → List String → Prop
  | here (place : List String) : Reaches root place [] place
  | stay {place rest q : List String} {name : String} {access : Access}
      {children : List (String × Node)} (idle : Path.isIdle name = true)
      (found : root.at? place = some (.directory access children))
      (onward : Reaches root place rest q) : Reaches root place (name :: rest) q
  | up {place rest q : List String} {access : Access} {children : List (String × Node)}
      (found : root.at? place = some (.directory access children))
      (onward : Reaches root place.dropLast rest q) : Reaches root place (".." :: rest) q
  | down {place rest q : List String} {name : String} {access : Access}
      {children : List (String × Node)} {child : Node} (proper : IsProper name)
      (found : root.at? place = some (.directory access children))
      (entry : children.lookup name = some child) (solid : child.isSolid = true)
      (onward : Reaches root (place ++ [name]) rest q) : Reaches root place (name :: rest) q
  | link {place rest q : List String} {name : String} {access : Access}
      {children : List (String × Node)} {target : Path} (proper : IsProper name)
      (found : root.at? place = some (.directory access children))
      (entry : children.lookup name = some (.link target))
      (onward : Reaches root (Tree.origin place target) (target.names ++ rest) q) :
      Reaches root place (name :: rest) q

/-- How a component is looked up. -/
inductive Looked (root : Node) (place : List String) (name : String) : Look → Prop
  /-- An empty one is not looked up at all. -/
  | idle {access : Access} {children : List (String × Node)} (idle : Path.isIdle name = true)
      (found : root.at? place = some (.directory access children)) :
      Looked root place name (.moves place)
  | up {access : Access} {children : List (String × Node)} (up : name = "..")
      (found : root.at? place = some (.directory access children)) :
      Looked root place name (.moves place.dropLast)
  | down {access : Access} {children : List (String × Node)} {child : Node}
      (proper : IsProper name) (found : root.at? place = some (.directory access children))
      (search : access.search = true) (short : name.utf8ByteSize ≤ nameLimit)
      (entry : children.lookup name = some child) (solid : child.isSolid = true) :
      Looked root place name (.moves (place ++ [name]))
  | link {access : Access} {children : List (String × Node)} {target : Path}
      (proper : IsProper name) (found : root.at? place = some (.directory access children))
      (search : access.search = true) (short : name.utf8ByteSize ≤ nameLimit)
      (entry : children.lookup name = some (.link target)) : Looked root place name (.turns target)
  | missing : Looked root place name .missing
  | fails (fault : Error) : Looked root place name (.fails fault)

/-- The directory that a path leads to has this entry under this name, whoever may look. -/
structure Tree.Holds (t : Tree) (dir : Path) (name : String) (entry : Node) : Prop where
  holds : ∃ place access children, Reaches t.root (origin t.current dir) dir.names place ∧
    t.root.at? place = some (.directory access children) ∧ children.lookup name = some entry

/-- What an entry in a place leads to, if as many links may be followed. -/
inductive Leads (root : Node) (place : List String) : Nat → Node → Node → Prop
  | itself {links : Nat} {node : Node} (solid : node.isSolid = true) :
      Leads root place links node node
  | link {links left : Nat} {target : Path} {q : List String} {node : Node}
      (followed : Tree.walk root links (Tree.origin place target) target.names =
        .ok (.taken q, left))
      (there : root.at? q = some node) : Leads root place (links + 1) (.link target) node

/-- The entry of this name in the directory that a path leads to can be seen, and leads to `node`. -/
structure Tree.Shows (t : Tree) (dir : Path) (name : String) (node : Node) : Prop where
  text : (dir.join name).fault? = none
  short : name.utf8ByteSize ≤ nameLimit
  leads : ∃ place left access children entry,
    walk t.root linkLimit (origin t.current dir) dir.names = .ok (.taken place, left) ∧
      t.root.at? place = some (.directory access children) ∧ access.search = true ∧
      children.lookup name = some entry ∧ Leads t.root place left entry node

variable {t : Tree} {p dir : Path} {name : String} {node root : Node} {fault : Error}
  {place q names more rest : List String} {links left : Nat} {target : Path}

theorem Node.at?_concat {access : Access} {children : List (String × Node)}
    (found : root.at? place = some (.directory access children)) :
    root.at? (place ++ [name]) = children.lookup name := by
  induction place generalizing root with
  | nil =>
    cases found
    simp only [List.nil_append, at?]
    cases children.lookup name <;> rfl
  | cons first rest ih =>
    cases root with
    | file | link | lost => cases found
    | directory access members =>
      simp only [List.cons_append, at?] at found ⊢
      cases entry : members.lookup first with
      | none => simp [entry] at found
      | some child =>
        rw [entry] at found
        exact ih found

/-! Following components. -/

namespace Tree

/-- How a stretch goes on if there are more components. -/
def onward (root : Node) (more : List String) : Stretch → Stretch
  | .rests (.taken place) => advance root place more
  | .rests (.free _ _) => .fails .notFound
  | .turns place target rest => .turns place target (rest ++ more)
  | .fails fault => .fails fault

/-- How a way goes on if there are more components. -/
def walkOn (root : Node) (more : List String) : Spot × Nat → Except Error (Spot × Nat)
  | (.taken place, left) => walk root left place more
  | (.free _ _, _) => .error .notFound

theorem advance_append (some : more ≠ []) :
    advance root place (names ++ more) = onward root more (advance root place names) := by
  induction names generalizing place with
  | nil => rfl
  | cons name rest ih =>
    rw [List.cons_append, advance, advance]
    cases look root place name with
    | moves => exact ih
    | turns | fails => rfl
    | missing =>
      have longer : (rest ++ more).isEmpty = false := by simp [some]
      simp only [longer, Bool.false_eq_true, if_false]
      split <;> rfl

theorem walk_of_rests {spot : Spot} (rests : advance root place names = .rests spot) :
    walk root links place names = .ok (spot, links) := by
  unfold walk
  simp only [rests]

theorem walk_of_fails (fails : advance root place names = .fails fault) :
    walk root links place names = .error fault := by
  unfold walk
  simp only [fails]

theorem walk_of_turns (turns : advance root place names = .turns q target rest) :
    walk root (links + 1) place names =
      walk root links (origin q target) (target.names ++ rest) := by
  rw [walk.eq_def]
  simp only [turns]

theorem walk_astray (turns : advance root place names = .turns q target rest) :
    walk root 0 place names = .error .tooManyLinks := by
  unfold walk
  simp only [turns]

theorem walk_congr {names' : List String}
    (same : advance root place names = advance root q names') :
    walk root links place names = walk root links q names' := by
  unfold walk
  rw [same]

theorem walk_append (some : more ≠ []) :
    walk root links place (names ++ more) =
      (walk root links place names).bind (walkOn root more) := by
  have longer : ∀ place names, advance root place (names ++ more) =
      onward root more (advance root place names) := fun _ _ => advance_append some
  fun_induction walk root links place names with
  | case1 links place names spot rests =>
    have longer := longer place names
    rw [rests] at longer
    cases spot with
    | taken q => exact walk_congr longer
    | free => exact walk_of_fails longer
  | case2 links place names fault fails =>
    have longer := longer place names
    rw [fails] at longer
    exact walk_of_fails longer
  | case3 place names q target rest turns =>
    have longer := longer place names
    rw [turns] at longer
    exact walk_astray longer
  | case4 place names q target rest turns links ih =>
    have longer := longer place names
    rw [turns] at longer
    rw [walk_of_turns longer, ← List.append_assoc]
    exact ih

theorem looked (root : Node) (place : List String) (name : String) :
    Looked root place name (look root place name) := by
  unfold look
  split
  case h_1 access children found =>
    split
    case isTrue none => exact .idle (by simp [Path.isIdle, none]) found
    case isFalse some =>
      split
      case isTrue => exact .fails _
      case isFalse search =>
        split
        case isTrue dot => exact .idle (by simp [Path.isIdle, dot]) found
        case isFalse here =>
          split
          case isTrue dots => exact .up dots found
          case isFalse up =>
            have proper : IsProper name := ⟨some, here, up⟩
            have search : access.search = true := by simpa using search
            split
            case isTrue => exact .fails _
            case isFalse short =>
              have short := Nat.le_of_not_lt short
              split
              case h_1 entry | h_2 entry => exact .down proper found search short entry rfl
              case h_3 entry => exact .link proper found search short entry
              case h_4 => exact .fails _
              case h_5 => exact .missing
  all_goals exact .fails _

theorem look_down {access : Access} {children : List (String × Node)} {child : Node}
    (proper : IsProper name) (found : root.at? place = some (.directory access children))
    (search : access.search = true) (short : name.utf8ByteSize ≤ nameLimit)
    (entry : children.lookup name = some child) (solid : child.isSolid = true) :
    look root place name = .moves (place ++ [name]) := by
  have short := Nat.not_lt.mpr short
  cases child with
  | file | directory =>
    simp [look, found, proper.some, proper.here, proper.up, search, short, entry]
  | link | lost => cases solid

theorem look_link {access : Access} {children : List (String × Node)}
    (proper : IsProper name) (found : root.at? place = some (.directory access children))
    (search : access.search = true) (short : name.utf8ByteSize ≤ nameLimit)
    (entry : children.lookup name = some (.link target)) :
    look root place name = .turns target := by
  have short := Nat.not_lt.mpr short
  simp [look, found, proper.some, proper.here, proper.up, search, short, entry]

/-! Where components lead. -/

theorem reaches_of_moves (moves : look root place name = .moves q) {there : List String}
    (onward : Reaches root q rest there) : Reaches root place (name :: rest) there := by
  have step := looked root place name
  rw [moves] at step
  cases step with
  | idle idle found => exact .stay idle found onward
  | up up found =>
    subst up
    exact .up found onward
  | down proper found search short entry solid => exact .down proper found entry solid onward

theorem reaches_of_rests (rests : advance root place names = .rests (.taken q)) :
    Reaches root place names q := by
  induction names generalizing place with
  | nil =>
    cases rests
    exact .here _
  | cons name rest ih =>
    rw [advance] at rests
    cases step : look root place name with
    | moves next =>
      rw [step] at rests
      exact reaches_of_moves step (ih rests)
    | turns | fails => simp [step] at rests
    | missing =>
      rw [step] at rests
      dsimp only at rests
      split at rests <;> cases rests

theorem reaches_of_turns {turn : List String}
    (turns : advance root place names = .turns turn target rest)
    (onward : Reaches root (origin turn target) (target.names ++ rest) q) :
    Reaches root place names q := by
  induction names generalizing place with
  | nil => cases turns
  | cons name others ih =>
    rw [advance] at turns
    cases step : look root place name with
    | moves next =>
      rw [step] at turns
      exact reaches_of_moves step (ih turns)
    | turns =>
      have known := looked root place name
      rw [step] at turns known
      cases turns
      cases known with
      | link proper found search short entry => exact .link proper found entry onward
    | missing =>
      rw [step] at turns
      dsimp only at turns
      split at turns <;> cases turns
    | fails => simp [step] at turns

/-- Where the system follows components, they lead. -/
theorem reaches_of_walk (walked : walk root links place names = .ok (.taken q, left)) :
    Reaches root place names q := by
  fun_induction walk root links place names with
  | case1 links place names spot rests =>
    cases walked
    exact reaches_of_rests rests
  | case2 | case3 => cases walked
  | case4 place names turn target rest turns links ih => exact reaches_of_turns turns (ih walked)

/-! What a path with one more name leads to. -/

theorem node_eq_ok : t.node p = .ok node ↔ p.fault? = none ∧ ∃ place left,
    walk t.root linkLimit (origin t.current p) p.names = .ok (.taken place, left) ∧
      t.root.at? place = some node := by
  simp only [Tree.node, resolve, spot, bind, Except.bind, pure, Except.pure, throw, throwThe,
    MonadExceptOf.throw]
  cases p.fault? with
  | some fault => simp
  | none =>
    cases walk t.root linkLimit (origin t.current p) p.names with
    | error fault => simp [Except.map]
    | ok found =>
      obtain ⟨spot, left⟩ := found
      cases spot with
      | free => simp [Except.map]
      | taken place => cases there : t.root.at? place <;> simp [Except.map, there]

/-- A slash makes no difference to what comes behind it. -/
theorem walk_slash : walk root links place ["", name] = walk root links place [name] := by
  refine walk_congr ?_
  rw [advance]
  cases there : root.at? place with
  | none => simp [look, there, advance]
  | some node => cases node <;> simp [look, there, advance]

theorem walk_join : walk root links place (dir.join name).names =
    walk root links place (dir.names ++ [name]) := by
  rcases Path.names_join dir name with same | ⟨opening, slash, same⟩
  · rw [same]
  · rw [same, slash, List.append_assoc, walk_append (by simp), walk_append (by simp)]
    refine congrArg _ (funext fun spot => ?_)
    obtain ⟨spot, left⟩ := spot
    cases spot with
    | taken q => exact walk_slash.symm
    | free => rfl

/-- What is found under a name is an entry that may be looked up. -/
theorem entry_of_walk (proper : IsProper name)
    (walked : walk root links place [name] = .ok (.taken q, left))
    (there : root.at? q = some node) :
    name.utf8ByteSize ≤ nameLimit ∧ ∃ access children entry,
      root.at? place = some (.directory access children) ∧ access.search = true ∧
        children.lookup name = some entry ∧ Leads root place links entry node := by
  have known := looked root place name
  cases step : look root place name with
  | moves next =>
    have rests : advance root place [name] = .rests (.taken next) := by simp [advance, step]
    rw [walk_of_rests rests] at walked
    cases walked
    rw [step] at known
    cases known with
    | idle idle => simp [Path.isIdle, proper.some, proper.here] at idle
    | up up => exact absurd up proper.up
    | down _ found search short entry solid =>
      rw [Node.at?_concat found, entry] at there
      cases there
      exact ⟨short, _, _, _, found, search, entry, .itself solid⟩
  | turns target =>
    have turns : advance root place [name] = .turns place target [] := by simp [advance, step]
    rw [step] at known
    cases known with
    | link _ found search short entry =>
      cases links with
      | zero =>
        rw [walk_astray turns] at walked
        cases walked
      | succ links =>
        rw [walk_of_turns turns, List.append_nil] at walked
        exact ⟨short, _, _, _, found, search, entry, .link walked there⟩
  | missing =>
    have rests : advance root place [name] = .rests (.free place name) := by simp [advance, step]
    rw [walk_of_rests rests] at walked
    cases walked
  | fails fault =>
    have fails : advance root place [name] = .fails fault := by simp [advance, step]
    rw [walk_of_fails fails] at walked
    cases walked

theorem walk_of_entry {access : Access} {children : List (String × Node)} {entry : Node}
    (proper : IsProper name) (short : name.utf8ByteSize ≤ nameLimit)
    (found : root.at? place = some (.directory access children)) (search : access.search = true)
    (member : children.lookup name = some entry) (leads : Leads root place links entry node) :
    ∃ q left, walk root links place [name] = .ok (.taken q, left) ∧ root.at? q = some node := by
  cases leads with
  | itself solid =>
    have step := look_down proper found search short member solid
    have rests : advance root place [name] = .rests (.taken (place ++ [name])) := by
      simp [advance, step]
    exact ⟨_, links, walk_of_rests rests, (Node.at?_concat found).trans member⟩
  | @link links left target q node followed there =>
    have step := look_link proper found search short member
    have turns : advance root place [name] = .turns place target [] := by simp [advance, step]
    rw [walk_of_turns turns, List.append_nil]
    exact ⟨q, left, followed, there⟩

/-- What is seen under a path with one more name. -/
theorem node_join (proper : IsProper name) :
    t.node (dir.join name) = .ok node ↔ t.Shows dir name node := by
  have start : origin t.current (dir.join name) = origin t.current dir := rfl
  rw [node_eq_ok, start, walk_join]
  have through : walk t.root linkLimit (origin t.current dir) (dir.names ++ [name]) =
      (walk t.root linkLimit (origin t.current dir) dir.names).bind (walkOn t.root [name]) :=
    walk_append (by simp)
  constructor
  · rintro ⟨text, q, left, walked, there⟩
    rw [through] at walked
    cases before : walk t.root linkLimit (origin t.current dir) dir.names with
    | error fault =>
      rw [before] at walked
      cases walked
    | ok found =>
      rw [before] at walked
      obtain ⟨spot, links⟩ := found
      cases spot with
      | free => cases walked
      | taken place =>
        obtain ⟨short, access, children, entry, found, search, member, leads⟩ :=
          entry_of_walk proper walked there
        exact ⟨text, short, place, links, access, children, entry, before, found, search, member,
          leads⟩
  · rintro ⟨text, short, place, links, access, children, entry, before, found, search, member,
      leads⟩
    obtain ⟨q, left, walked, there⟩ := walk_of_entry proper short found search member leads
    refine ⟨text, q, left, ?_, there⟩
    rw [through, before]
    exact walked

theorem exists_join (proper : IsProper name) :
    t.exists? (dir.join name) = true ↔ ∃ node, t.Shows dir name node := by
  unfold exists?
  constructor
  · intro there
    cases known : t.node (dir.join name) with
    | error fault =>
      rw [known] at there
      cases there
    | ok node => exact ⟨node, (node_join proper).mp known⟩
  · rintro ⟨node, shows⟩
    rw [(node_join proper).mpr shows]
    rfl

/-- Only entries are seen. -/
theorem Shows.holds (shows : t.Shows dir name node) : ∃ entry, t.Holds dir name entry := by
  obtain ⟨place, left, access, children, entry, walked, found, _, member, _⟩ := shows.leads
  exact ⟨entry, place, access, children, reaches_of_walk walked, found, member⟩

theorem Shows.readText (shows : t.Shows dir name node) (proper : IsProper name) :
    t.readText (dir.join name) = node.text := by
  rw [Tree.readText, (node_join proper).mpr shows]
  rfl

end Tree
end Dialback.Files
