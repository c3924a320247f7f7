import Dialback.Proofs.Files.Entry
import Dialback.Proofs.Settings.Validation
import Dialback.Settings.Lookup

/-!
Which settings are found. Going up from a path visits the path itself and everything above it, so
the search ends, and it ends at the nearest directory that shows an entry of the settings' name.
What is discovered is what that entry gives: one that cannot be read, or is not valid, is reported
and hides every entry above it. An entry that is held but not shown hides nothing: the search passes
it over, for want of permission, behind a link that leads nowhere, or because the text of its path is
too long.
-/
namespace Dialback.Settings

open Files

variable {t : Tree} {start p dir : Path} {node entry : Node} {shown : String} {n : Nat}

/-- What a document comes to. -/
inductive Reads (document : String) : Except SettingsFault Settings → Prop
  | unparsed (malformed : (Toml.parse? document).bind ofEntries? = none) :
      Reads document (.error .parse)
  | unversioned (s : Settings) (fault : Version.ParseError)
      (given : (Toml.parse? document).bind ofEntries? = some s)
      (unversioned : s.handshake.identity = .error fault) : Reads document (.error (.version fault))
  | invalid (s : Settings) (identity : Handshake.Identity) (text : String)
      (given : (Toml.parse? document).bind ofEntries? = some s)
      (versioned : s.handshake.identity = .ok identity)
      (invalid : s.validate = .error (.invalid text)) : Reads document (.error (.invalid text))
  | settings (s : Settings) (given : (Toml.parse? document).bind ofEntries? = some s)
      (valid : s.Valid) : Reads document (.ok s)

/-- What a node of the settings' name comes to; `shown` tells where it is. -/
inductive Gives (shown : String) : Node → Except SettingsFault Settings → Prop
  | unread (node : Node) (fault : Error) (unread : node.text = .error fault) :
      Gives shown node (.error (.read shown fault.message))
  | document (node : Node) (text : String) (outcome : Except SettingsFault Settings)
      (readable : node.text = .ok text) (reads : Reads text outcome) : Gives shown node outcome

/-- Of the paths above `start`, and itself, `dir` is the nearest of this kind. -/
structure Nearest (kind : Path → Prop) (start dir : Path) : Prop where
  above : dir.Above start
  found : kind dir
  nearest : ∀ other, Path.Above other start → kind other → other.parts.length ≤ dir.parts.length

/-- An entry of the settings' name is there. -/
def Held (t : Tree) (dir : Path) : Prop :=
  ∃ entry, t.Holds dir fileName entry

/-- It can be seen that one is there. -/
def Seen (t : Tree) (dir : Path) : Prop :=
  ∃ node, t.Shows dir fileName node

/-- What is found, and what is discovered. -/
structure Located (t : Tree) : Prop where
  found : ∀ start p, find? t start = some p ↔
    ∃ dir, Nearest (Seen t) start dir ∧ p = dir.join fileName
  missing : ∀ start, find? t start = none ↔ ∀ dir, Path.Above dir start → ¬ Seen t dir
  /-- Nothing is seen where nothing is. -/
  held : ∀ dir, Seen t dir → Held t dir
  /-- So the nearest entry is found exactly if it can be seen. -/
  nearest : ∀ start dir, Nearest (Held t) start dir →
    (find? t start = some (dir.join fileName) ↔ Seen t dir)
  /-- More steps than the path has components, and one, would find nothing else. -/
  ends : ∀ start n, start.parts.length < n → findUp t start n = find? t start
  discovered : ∀ dir node, Nearest (Seen t) (here t) dir → t.Shows dir fileName node →
    Gives (dir.join fileName).render node (discover t)
  standard : (∀ dir, Path.Above dir (here t) → ¬ Seen t dir) → discover t = .ok {}

/-! The search. -/

theorem proper_fileName : IsProper fileName :=
  ⟨by decide, by decide, by decide⟩

theorem exists_iff_seen : t.exists? (dir.join fileName) = true ↔ Seen t dir :=
  Tree.exists_join proper_fileName

/-- What is found is nearest. The induction is on the steps that are left. -/
theorem nearest_of_findUp (found : findUp t start n = some p) :
    ∃ dir, Nearest (Seen t) start dir ∧ p = dir.join fileName := by
  induction n generalizing start with
  | zero => cases found
  | succ n ih =>
    unfold findUp at found
    split at found
    case isTrue there =>
      cases found
      exact ⟨start, ⟨.self start, exists_iff_seen.mp there,
        fun other above _ => above.parts.length_le⟩, rfl⟩
    case isFalse missing =>
      split at found
      case h_1 up goes =>
        obtain ⟨dir, nearest, rfl⟩ := ih found
        refine ⟨dir, ⟨.up goes nearest.above, nearest.found, ?_⟩, rfl⟩
        intro other above seen
        cases above with
        | self => exact absurd (exists_iff_seen.mpr seen) missing
        | up goes' above =>
          cases goes.symm.trans goes'
          exact nearest.nearest other above seen
      case h_2 => cases found

/-- A search that finds nothing has looked everywhere, if it was given steps enough. -/
theorem missing_of_findUp (enough : start.parts.length < n) (missed : findUp t start n = none)
    (above : dir.Above start) : ¬ Seen t dir := by
  intro seen
  induction n generalizing start with
  | zero => omega
  | succ n ih =>
    unfold findUp at missed
    split at missed
    case isTrue => cases missed
    case isFalse missing =>
      cases above with
      | self => exact missing (exists_iff_seen.mpr seen)
      | up goes above =>
        simp only [goes] at missed
        have shorter := Path.parent_length goes
        exact ih (by omega) missed above

theorem Nearest.unique {kind : Path → Prop} {dir' : Path} (nearest : Nearest kind start dir)
    (nearest' : Nearest kind start dir') : dir = dir' := by
  have le := nearest'.nearest dir nearest.above nearest.found
  have ge := nearest.nearest dir' nearest'.above nearest'.found
  exact nearest.above.eq_of_length nearest'.above (Nat.le_antisymm le ge)

theorem findUp_eq_some (enough : start.parts.length < n) : findUp t start n = some p ↔
    ∃ dir, Nearest (Seen t) start dir ∧ p = dir.join fileName := by
  constructor
  · exact nearest_of_findUp
  · rintro ⟨dir, nearest, rfl⟩
    cases searched : findUp t start n with
    | none => exact absurd nearest.found (missing_of_findUp enough searched nearest.above)
    | some found =>
      obtain ⟨dir', nearest', rfl⟩ := nearest_of_findUp searched
      rw [nearest.unique nearest']

theorem findUp_eq_none (enough : start.parts.length < n) : findUp t start n = none ↔
    ∀ dir, Path.Above dir start → ¬ Seen t dir := by
  constructor
  · intro missed dir above
    exact missing_of_findUp enough missed above
  · intro missing
    cases searched : findUp t start n with
    | none => rfl
    | some found =>
      obtain ⟨dir, nearest, _⟩ := nearest_of_findUp searched
      exact absurd nearest.found (missing dir nearest.above)

/-- What is found does not depend on how many steps are left over. -/
theorem findUp_enough (enough : start.parts.length < n) : findUp t start n = find? t start := by
  apply Option.ext
  intro p
  rw [findUp_eq_some enough, find?, findUp_eq_some (Nat.lt_succ_self _)]

theorem find_eq_some : find? t start = some p ↔
    ∃ dir, Nearest (Seen t) start dir ∧ p = dir.join fileName :=
  findUp_eq_some (Nat.lt_succ_self _)

theorem find_eq_none : find? t start = none ↔ ∀ dir, Path.Above dir start → ¬ Seen t dir :=
  findUp_eq_none (Nat.lt_succ_self _)

theorem held_of_seen (seen : Seen t dir) : Held t dir := by
  obtain ⟨node, shows⟩ := seen
  exact shows.holds

/-- Where the nearest entry can be seen nothing nearer is. -/
theorem Nearest.of_seen (nearest : Nearest (Held t) start dir) (seen : Seen t dir) :
    Nearest (Seen t) start dir :=
  ⟨nearest.above, seen, fun other above seen' => nearest.nearest other above (held_of_seen seen')⟩

theorem Nearest.find_iff (nearest : Nearest (Held t) start dir) :
    find? t start = some (dir.join fileName) ↔ Seen t dir := by
  rw [find_eq_some]
  constructor
  · rintro ⟨dir', nearest', same⟩
    have seen := exists_iff_seen.mpr nearest'.found
    rw [← same] at seen
    exact exists_iff_seen.mp seen
  · intro seen
    exact ⟨dir, nearest.of_seen seen, rfl⟩

/-! What is found is loaded. -/

theorem reads_parse (document : String) : Reads document (parse document) := by
  unfold parse
  split
  case h_1 malformed => exact .unparsed malformed
  case h_2 s given =>
    cases checked : s.validate with
    | ok _ => exact .settings s given (validate_eq_ok.mp checked)
    | error fault =>
      rcases fault_of_validate checked with ⟨unread, identity, rfl⟩ | ⟨known, text, identity, rfl⟩
      · exact .unversioned s unread given identity
      · exact .invalid s known text given identity checked

theorem gives_load (shows : t.Shows dir fileName node) :
    Gives shown node (load t shown (dir.join fileName)) := by
  have content := shows.readText proper_fileName
  cases text : node.text with
  | error fault =>
    rw [load, content, text]
    exact .unread node fault text
  | ok text' =>
    rw [load, content, text]
    exact .document node text' _ text (reads_parse text')

/-- In every file tree, from every path. -/
theorem nearest_decides (t : Tree) : Located t where
  found _ _ := find_eq_some
  missing _ := find_eq_none
  held _ := held_of_seen
  nearest _ _ := Nearest.find_iff
  ends _ _ := findUp_enough
  discovered dir node nearest shows := by
    unfold discover
    rw [find_eq_some.mpr ⟨dir, nearest, rfl⟩]
    exact gives_load shows
  standard missing := by
    unfold discover
    rw [find_eq_none.mpr missing]

/-- A directory of the settings' name hides a file of that name above it. -/
def blocked : Tree where
  root := .directory {} [(fileName, .ofBytes []),
    ("a", .directory {} [(fileName, .empty), ("b", .empty)])]
  current := ["a", "b"]

theorem shows_blocked : blocked.Shows { start := .root, pieces := ["a"] } fileName .empty where
  text := by decide
  short := by decide
  leads := ⟨["a"], linkLimit, _, _, _, rfl, rfl, rfl, rfl, .itself rfl⟩

theorem nearest_blocked :
    Nearest (Seen blocked) (here blocked) { start := .root, pieces := ["a"] } where
  above := .up rfl (.self _)
  found := ⟨_, shows_blocked⟩
  nearest other above seen := by
    have seen := exists_iff_seen.mpr seen
    cases above with
    | self => exact absurd seen (by decide)
    | up goes above =>
      cases goes
      exact above.parts.length_le

theorem nearest_decides_blocked :
    find? blocked (here blocked) = some { start := .root, pieces := ["a", fileName] } ∧
      discover blocked = .error (.read "/a/revcall.toml" Error.isADirectory.message) := by
  have located := nearest_decides blocked
  have gives := located.discovered _ _ nearest_blocked shows_blocked
  refine ⟨(located.found _ _).mpr ⟨_, nearest_blocked, rfl⟩, ?_⟩
  generalize discover blocked = outcome at gives ⊢
  cases gives with
  | unread fault unread =>
    cases unread
    rfl
  | document text _ readable => cases readable

/-! What is passed over. -/

/-- Every dot is written behind a slash. -/
theorem size_dots (first last : String) (n : Nat) :
    ("/".intercalate (first :: (List.replicate n "." ++ [last]))).utf8ByteSize =
      first.utf8ByteSize + 2 * n + 1 + last.utf8ByteSize := by
  have slash : "/".utf8ByteSize = 1 := rfl
  induction n generalizing first with
  | zero =>
    rw [List.replicate_zero, List.nil_append, String.intercalate_cons_cons,
      String.utf8ByteSize_append, String.utf8ByteSize_append, slash, String.intercalate_singleton]
  | succ n ih =>
    have dot : ".".utf8ByteSize = 1 := rfl
    rw [List.replicate_succ, List.cons_append, String.intercalate_cons_cons,
      String.utf8ByteSize_append, String.utf8ByteSize_append, slash, ih, dot]
    omega

/-- The directory `a`, by a text with as many dots behind it. -/
def winding (n : Nat) : Path where
  pieces := "a" :: List.replicate n "."

/-- One file of the settings' name in the directory `a`, and one above it. -/
def doubled : Tree where
  root := .directory {} [(fileName, .ofBytes []), ("a", .directory {} [(fileName, .ofBytes [])])]

theorem reaches_dots {root : Node} {place : List String} {access : Access}
    {children : List (String × Node)} (found : root.at? place = some (.directory access children))
    (n : Nat) : Reaches root place (List.replicate n ".") place := by
  induction n with
  | zero => exact .here place
  | succ n ih => exact .stay rfl found ih

/-- However long the text, it leads to a directory with an entry. -/
theorem held_winding (n : Nat) : Held doubled (winding n) := by
  have dots : Reaches doubled.root ["a"] (List.replicate n ".") ["a"] := reaches_dots rfl n
  have proper : IsProper "a" := ⟨by decide, by decide, by decide⟩
  exact ⟨.ofBytes [], ["a"], _, _, .down proper rfl rfl rfl dots, rfl, rfl⟩

theorem parent_winding (n : Nat) : (winding n).parent? = some { pieces := [] } := by
  have kept : Path.trimEnd (winding n).pieces = ["a"] := by
    rw [winding, Path.trimEnd, List.reverse_cons, List.reverse_replicate,
      List.dropWhile_append_of_pos]
    · rfl
    · intro piece member
      rw [List.eq_of_mem_replicate member]
      rfl
  unfold Path.parent?
  rw [kept]
  rfl

theorem join_winding (n : Nat) :
    (winding n).join fileName = { pieces := "a" :: (List.replicate n "." ++ [fileName]) } := by
  have last : (winding n).pieces.getLast? ≠ some "" := by
    intro last
    have member := List.mem_of_getLast? last
    simp [winding] at member
  unfold Path.join
  rw [if_neg last]
  rfl

theorem size_winding (n : Nat) : ((winding n).join fileName).size = 14 + 2 * n := by
  have name : fileName.utf8ByteSize = 12 := by decide
  have first : "a".utf8ByteSize = 1 := rfl
  have text : ((winding n).join fileName).render =
      "" ++ "/".intercalate ("a" :: (List.replicate n "." ++ [fileName])) := by
    rw [join_winding]
    rfl
  rw [Path.size, text, String.utf8ByteSize_append, String.utf8ByteSize_empty, size_dots, first,
    name]
  omega

/-- A nearest entry that is passed over: the text is too long for the system. -/
theorem find_winding {n : Nat} (long : 2041 ≤ n) :
    find? doubled (winding n) = some { pieces := [fileName] } := by
  have unseen : ¬ doubled.exists? ((winding n).join fileName) = true := by
    intro there
    obtain ⟨node, shows⟩ := exists_iff_seen.mp there
    have text := shows.text
    have size := size_winding n
    unfold Path.fault? at text
    rw [size, pathLimit] at text
    split at text
    · cases text
    · rw [if_pos (by omega)] at text
      cases text
  have above : doubled.exists? (Path.join { pieces := [] } fileName) = true := by decide
  have parts : (winding n).parts.length + 1 = 2 := by simp [winding, Path.parts, Path.isIdle]
  rw [find?, parts, findUp, if_neg unseen, parent_winding]
  dsimp only
  rw [findUp, if_pos above]
  rfl

theorem winding_overlooked : Nearest (Held doubled) (winding 2100) (winding 2100) ∧
    find? doubled (winding 2100) = some { pieces := [fileName] } :=
  ⟨⟨.self _, held_winding 2100, fun _ above _ => above.parts.length_le⟩,
    find_winding (by decide)⟩

/-- A link of the settings' name that leads nowhere. -/
def dangling : Tree where
  root := .directory {} [(fileName, .link { start := .root, pieces := ["nowhere"] })]

/-- What it hides is not missed: the defaults are taken. -/
theorem dangling_overlooked : Nearest (Held dangling) (here dangling) (here dangling) ∧
    discover dangling = .ok {} :=
  ⟨⟨.self _, ⟨_, [], _, _, .here [], rfl, rfl⟩, fun _ above _ => above.parts.length_le⟩, rfl⟩

end Dialback.Settings
