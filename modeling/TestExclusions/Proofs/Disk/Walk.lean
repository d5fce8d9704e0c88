import TestExclusions.Proofs.Disk.Growth
import TestExclusions.Proofs.Path

/-! Where paths lead. A walk that arrives is a derivation, and what holds of every arrival is
shown by induction over it; growth of the disk keeps all of them. -/
namespace TestExclusions

/-- The place that a path speaks of, whether or not something stands there. -/
def Spot.place : Spot → Place
  | taken place => place
  | free directory name _ => directory ++ [name]

namespace Disk

/-! ## Walks that arrive -/

/-- Moves lead from a directory to a spot through at most so many links. -/
inductive Leads (disk : Disk) : Nat → Place → List Move → Spot → Prop
  | done {links : Nat} {here : Place} : Leads disk links here [] (.taken here)
  | stay {links : Nat} {here : Place} {move : Move} {rest : List Move} {spot : Spot}
      (hhere : disk.get? here = some .directory) (hmove : move = .stay ∨ move = .close)
      (hrest : Leads disk links here rest spot) : Leads disk links here (move :: rest) spot
  | up {links : Nat} {here : Place} {rest : List Move} {spot : Spot}
      (hhere : disk.get? here = some .directory)
      (hrest : Leads disk links here.dropLast rest spot) : Leads disk links here (.up :: rest) spot
  | follow {links : Nat} {here : Place} {name : Bytes} {target : Path} {rest : List Move}
      {spot : Spot} (hhere : disk.get? here = some .directory)
      (hsize : name.length ≤ Path.maxNameBytes)
      (hlink : disk.get? (here ++ [name]) = some (.link target))
      (hrest : Leads disk links (start here target) (target.moves ++ rest) spot) :
      Leads disk (links + 1) here (.enter name :: rest) spot
  | enter {links : Nat} {here : Place} {name : Bytes} {item : Item} {rest : List Move}
      {spot : Spot} (hhere : disk.get? here = some .directory)
      (hsize : name.length ≤ Path.maxNameBytes)
      (hitem : disk.get? (here ++ [name]) = some item) (hlink : ∀ target, item ≠ .link target)
      (hrest : Leads disk links (here ++ [name]) rest spot) :
      Leads disk links here (.enter name :: rest) spot
  | free {links : Nat} {here : Place} {name : Bytes}
      (hhere : disk.get? here = some .directory) (hsize : name.length ≤ Path.maxNameBytes)
      (hnone : disk.get? (here ++ [name]) = none) :
      Leads disk links here [.enter name] (.free here name false)
  | freeClosed {links : Nat} {here : Place} {name : Bytes}
      (hhere : disk.get? here = some .directory) (hsize : name.length ≤ Path.maxNameBytes)
      (hnone : disk.get? (here ++ [name]) = none) :
      Leads disk links here [.enter name, .close] (.free here name true)

/-- How a walk goes on behind a link when so many links are left. -/
def beyondLink (disk : Disk) : Nat → Place → List Move → Except FileError Spot
  | 0 => fun _ _ => .error .tooManyLinks
  | links + 1 => disk.walk links

theorem walk_eq (disk : Disk) (links : Nat) :
    disk.walk links = disk.walkWith (disk.beyondLink links) := by
  cases links <;> rfl

@[simp] theorem walk_nil (disk : Disk) (links : Nat) (here : Place) :
    disk.walk links here [] = .ok (.taken here) := by
  rw [walk_eq]
  rfl

theorem walk_stay {disk : Disk} {links : Nat} {here : Place} {move : Move} {rest : List Move}
    (hhere : disk.get? here = some .directory) (hmove : move = .stay ∨ move = .close) :
    disk.walk links here (move :: rest) = disk.walk links here rest := by
  rcases hmove with rfl | rfl
  · rw [walk_eq, walkWith, if_neg (by simp [hhere])]
  · rw [walk_eq, walkWith, if_neg (by simp [hhere])]

theorem walk_up {disk : Disk} {links : Nat} {here : Place} {rest : List Move}
    (hhere : disk.get? here = some .directory) :
    disk.walk links here (.up :: rest) = disk.walk links here.dropLast rest := by
  rw [walk_eq, walkWith, if_neg (by simp [hhere])]

theorem walk_follow {disk : Disk} {links : Nat} {here : Place} {name : Bytes} {target : Path}
    {rest : List Move} (hhere : disk.get? here = some .directory)
    (hsize : name.length ≤ Path.maxNameBytes)
    (hlink : disk.get? (here ++ [name]) = some (.link target)) :
    disk.walk (links + 1) here (.enter name :: rest) =
      disk.walk links (start here target) (target.moves ++ rest) := by
  rw [walk_eq, walkWith, if_neg (by simp [hhere])]
  rw [if_neg (by omega), hlink]
  rfl

theorem walk_enter {disk : Disk} {links : Nat} {here : Place} {name : Bytes} {item : Item}
    {rest : List Move} (hhere : disk.get? here = some .directory)
    (hsize : name.length ≤ Path.maxNameBytes)
    (hitem : disk.get? (here ++ [name]) = some item) (hlink : ∀ target, item ≠ .link target) :
    disk.walk links here (.enter name :: rest) = disk.walk links (here ++ [name]) rest := by
  rw [walk_eq, walkWith, if_neg (by simp [hhere])]
  rw [if_neg (by omega), hitem]
  cases item with
  | link target => exact absurd rfl (hlink target)
  | file content => rfl
  | directory => rfl

theorem walk_free {disk : Disk} {links : Nat} {here : Place} {name : Bytes} {rest : List Move}
    (hhere : disk.get? here = some .directory) (hsize : name.length ≤ Path.maxNameBytes)
    (hnone : disk.get? (here ++ [name]) = none) :
    disk.walk links here (.enter name :: rest) =
      if rest = [] then .ok (.free here name false)
      else if rest = [.close] then .ok (.free here name true)
      else .error .notFound := by
  rw [walk_eq, walkWith, if_neg (by simp [hhere])]
  rw [if_neg (by omega), hnone]

theorem walk_tooLong {disk : Disk} {links : Nat} {here : Place} {name : Bytes}
    {rest : List Move} (hhere : disk.get? here = some .directory)
    (hsize : Path.maxNameBytes < name.length) :
    disk.walk links here (.enter name :: rest) = .error .nameTooLong := by
  rw [walk_eq, walkWith, if_neg (by simp [hhere])]
  rw [if_pos (by omega)]

/-- A walk arrives along a derivation if the walks behind its links do. -/
theorem leads_of_walkWith {disk : Disk} {links : Nat}
    {follow : Place → List Move → Except FileError Spot}
    (hfollow : ∀ here moves spot, follow here moves = .ok spot →
      ∃ left, links = left + 1 ∧ Leads disk left here moves spot)
    {here : Place} {moves : List Move} {spot : Spot}
    (h : disk.walkWith follow here moves = .ok spot) : Leads disk links here moves spot := by
  induction moves generalizing here with
  | nil =>
    cases h
    exact .done
  | cons move rest ih =>
    have hhere : disk.get? here = some .directory := by
      cases move <;> rw [walkWith] at h <;> split at h <;> simp_all
    cases move with
    | stay =>
      rw [walkWith, if_neg (by simp [hhere])] at h
      exact .stay hhere (.inl rfl) (ih h)
    | close =>
      rw [walkWith, if_neg (by simp [hhere])] at h
      exact .stay hhere (.inr rfl) (ih h)
    | up =>
      rw [walkWith, if_neg (by simp [hhere])] at h
      exact .up hhere (ih h)
    | enter name =>
      rw [walkWith, if_neg (by simp [hhere])] at h
      split at h
      · cases h
      · rename_i hsize
        have hsize := Nat.le_of_not_lt hsize
        split at h
        · rename_i target hlink
          obtain ⟨left, rfl, hrest⟩ := hfollow _ _ _ h
          exact .follow hhere hsize hlink hrest
        · rename_i item hlink hitem
          exact .enter hhere hsize hitem hlink (ih h)
        · rename_i hnone
          split at h
          · rename_i hrest
            subst hrest
            cases h
            exact .free hhere hsize hnone
          · split at h
            · rename_i hrest
              subst hrest
              cases h
              exact .freeClosed hhere hsize hnone
            · cases h

/-- The derivations are those of the walks that arrive. -/
theorem walk_eq_ok_iff {disk : Disk} {links : Nat} {here : Place} {moves : List Move}
    {spot : Spot} : disk.walk links here moves = .ok spot ↔ Leads disk links here moves spot := by
  constructor
  · intro h
    rw [walk_eq] at h
    -- every link that is followed takes one from the number of those that are left
    induction links generalizing here moves spot with
    | zero =>
      apply leads_of_walkWith _ h
      intro here moves spot hfollow
      cases hfollow
    | succ links ih =>
      apply leads_of_walkWith _ h
      intro here moves spot hfollow
      refine ⟨links, rfl, ih ?_⟩
      rw [← walk_eq]
      exact hfollow
  · intro h
    induction h with
    | done => exact walk_nil _ _ _
    | stay hhere hmove _ ih => rw [walk_stay hhere hmove, ih]
    | up hhere _ ih => rw [walk_up hhere, ih]
    | follow hhere hsize hlink _ ih => rw [walk_follow hhere hsize hlink, ih]
    | enter hhere hsize hitem hlink _ ih => rw [walk_enter hhere hsize hitem hlink, ih]
    | free hhere hsize hnone => rw [walk_free hhere hsize hnone, if_pos rfl]
    | freeClosed hhere hsize hnone =>
      rw [walk_free hhere hsize hnone, if_neg (by simp), if_pos rfl]

/-! ## Arrivals -/

/-- On a grown disk the same moves lead to the same place, where a file may stand now. -/
theorem Leads.grows {before after : Disk} (hgrows : Grows before after) {links : Nat}
    {here : Place} {moves : List Move} {spot : Spot} (h : Leads before links here moves spot)
    (hopen : ∀ directory name, spot ≠ .free directory name true)
    (hfile : ∀ directory name, spot = .free directory name false →
      ∃ content, after.get? spot.place = some (.file content)) :
    Leads after links here moves (.taken spot.place) := by
  induction h with
  | done => exact .done
  | stay hhere hmove _ ih => exact .stay (hgrows.directory _ hhere) hmove (ih hopen hfile)
  | up hhere _ ih => exact .up (hgrows.directory _ hhere) (ih hopen hfile)
  | follow hhere hsize hlink _ ih =>
    exact .follow (hgrows.directory _ hhere) hsize (hgrows.link _ _ hlink) (ih hopen hfile)
  | @enter _ _ _ item _ _ hhere hsize hitem hlink _ ih =>
    cases item with
    | link target => exact absurd rfl (hlink target)
    | directory =>
      have hnext := hgrows.directory _ hitem
      exact .enter (hgrows.directory _ hhere) hsize hnext hlink (ih hopen hfile)
    | file content =>
      obtain ⟨next, hnext⟩ := hgrows.file _ _ hitem
      exact .enter (hgrows.directory _ hhere) hsize hnext (by simp) (ih hopen hfile)
  | free hhere hsize _ =>
    obtain ⟨content, hcontent⟩ := hfile _ _ rfl
    exact .enter (hgrows.directory _ hhere) hsize hcontent (by simp) .done
  | freeClosed => exact absurd rfl (hopen _ _)

/-- An arrival passes through a place behind each part of its moves, from which all moves go on. -/
theorem Leads.split {disk : Disk} {links : Nat} {here place : Place} {front back : List Move}
    (h : Leads disk links here (front ++ back) (.taken place)) :
    ∃ left between, (∀ rest, disk.walk links here (front ++ rest) = disk.walk left between rest) ∧
      Leads disk left between back (.taken place) := by
  generalize hspot : Spot.taken place = spot at h
  generalize hall : front ++ back = all at h
  induction h generalizing front with
  | @done links here =>
    obtain ⟨rfl, rfl⟩ := List.append_eq_nil_iff.mp hall
    exact ⟨links, here, fun _ => rfl, .done⟩
  | @stay links here _ _ _ hhere hmove hrest ih =>
    cases front with
    | nil =>
      cases hall
      exact ⟨links, here, fun _ => rfl, .stay hhere hmove hrest⟩
    | cons move more =>
      cases hall
      obtain ⟨left, between, hleft, hback⟩ := ih hspot rfl
      exact ⟨left, between, fun rest => by
        rw [List.cons_append, walk_stay hhere hmove, hleft], hback⟩
  | @up links here _ _ hhere hrest ih =>
    cases front with
    | nil =>
      cases hall
      exact ⟨links, here, fun _ => rfl, .up hhere hrest⟩
    | cons move more =>
      cases hall
      obtain ⟨left, between, hleft, hback⟩ := ih hspot rfl
      exact ⟨left, between, fun rest => by rw [List.cons_append, walk_up hhere, hleft], hback⟩
  | @follow links here _ target _ _ hhere hsize hlink hrest ih =>
    cases front with
    | nil =>
      cases hall
      exact ⟨links + 1, here, fun _ => rfl, .follow hhere hsize hlink hrest⟩
    | cons move more =>
      cases hall
      -- the moves of the target come in front of those that are left of the first part
      obtain ⟨left, between, hleft, hback⟩ := ih hspot (List.append_assoc target.moves more back)
      refine ⟨left, between, fun rest => ?_, hback⟩
      rw [List.cons_append, walk_follow hhere hsize hlink, ← List.append_assoc, hleft]
  | @enter links here _ _ _ _ hhere hsize hitem hlink hrest ih =>
    cases front with
    | nil =>
      cases hall
      exact ⟨links, here, fun _ => rfl, .enter hhere hsize hitem hlink hrest⟩
    | cons move more =>
      cases hall
      obtain ⟨left, between, hleft, hback⟩ := ih hspot rfl
      exact ⟨left, between, fun rest => by
        rw [List.cons_append, walk_enter hhere hsize hitem hlink, hleft], hback⟩
  | free => cases hspot
  | freeClosed => cases hspot

/-- Who stays goes nowhere. -/
theorem Leads.eq_of_stays {disk : Disk} {links : Nat} {here place : Place} {moves : List Move}
    (h : Leads disk links here moves (.taken place))
    (hmoves : ∀ move ∈ moves, move = .stay ∨ move = .close) : place = here := by
  generalize hspot : Spot.taken place = spot at h
  induction h with
  | done => exact Spot.taken.inj hspot
  | stay _ _ _ ih => exact ih (fun move hmove => hmoves move (List.mem_cons_of_mem _ hmove)) hspot
  | up | follow | enter | free | freeClosed => simpa using hmoves _ List.mem_cons_self

/-- Moves that arrive at a place can be followed by others there, whether or not some that stay
come behind them. -/
theorem Leads.walk_append {disk : Disk} {links : Nat} {here place : Place}
    {moves stays : List Move} (h : Leads disk links here (moves ++ stays) (.taken place))
    (hstays : ∀ move ∈ stays, move = .stay ∨ move = .close) :
    ∃ left, ∀ rest, disk.walk links here (moves ++ rest) = disk.walk left place rest := by
  obtain ⟨left, between, hleft, hback⟩ := h.split
  rw [hback.eq_of_stays hstays]
  exact ⟨left, hleft⟩

theorem Leads.of_stays {disk : Disk} {links : Nat} {here place : Place}
    {moves stays : List Move} (h : Leads disk links here (moves ++ stays) (.taken place))
    (hstays : ∀ move ∈ stays, move = .stay ∨ move = .close) :
    Leads disk links here moves (.taken place) := by
  obtain ⟨left, hleft⟩ := h.walk_append hstays
  have harrives := hleft []
  rw [List.append_nil, walk_nil] at harrives
  exact walk_eq_ok_iff.mp harrives

/-- Whoever moves on stands in a directory. -/
theorem Leads.directory_here {disk : Disk} {links : Nat} {here : Place} {move : Move}
    {rest : List Move} {spot : Spot} (h : Leads disk links here (move :: rest) spot) :
    disk.get? here = some .directory := by
  cases h <;> assumption

/-- Who stays at the end of a walk stands in a directory. -/
theorem Leads.directory_of_stay {disk : Disk} {links : Nat} {here place : Place}
    {moves : List Move} (h : Leads disk links here (moves ++ [.stay]) (.taken place)) :
    disk.get? place = some .directory := by
  obtain ⟨left, between, -, hback⟩ := h.split
  rw [hback.eq_of_stays (by simp)]
  exact hback.directory_here

/-- A free name stands in a directory and can be entered. -/
theorem Leads.free_spec {disk : Disk} {links : Nat} {here directory : Place} {moves : List Move}
    {name : Bytes} {closed : Bool} (h : Leads disk links here moves (.free directory name closed))
    (hmoves : ∀ other, .enter other ∈ moves → Path.IsName other) :
    disk.get? directory = some .directory ∧ Path.IsName name ∧
      disk.get? (directory ++ [name]) = none := by
  generalize hspot : Spot.free directory name closed = spot at h
  induction h with
  | done => cases hspot
  | stay _ _ _ ih => exact ih (fun other ho => hmoves other (List.mem_cons_of_mem _ ho)) hspot
  | up _ _ ih => exact ih (fun other ho => hmoves other (List.mem_cons_of_mem _ ho)) hspot
  | follow _ _ _ _ ih =>
    refine ih (fun other ho => ?_) hspot
    rcases List.mem_append.mp ho with ho | ho
    · exact Path.isName_of_mem_moves ho
    · exact hmoves other (List.mem_cons_of_mem _ ho)
  | enter _ _ _ _ _ ih =>
    exact ih (fun other ho => hmoves other (List.mem_cons_of_mem _ ho)) hspot
  | free hhere _ hnone =>
    cases hspot
    exact ⟨hhere, hmoves _ List.mem_cons_self, hnone⟩
  | freeClosed hhere _ hnone =>
    cases hspot
    exact ⟨hhere, hmoves _ List.mem_cons_self, hnone⟩

/-- No walk arrives that enters a name which is too long. -/
theorem Leads.size_le {disk : Disk} {links : Nat} {here : Place} {moves : List Move} {spot : Spot}
    (h : Leads disk links here moves spot) {name : Bytes} (hname : .enter name ∈ moves) :
    name.length ≤ Path.maxNameBytes := by
  induction h with
  | done => cases hname
  | stay _ hmove _ ih =>
    rcases List.mem_cons.mp hname with rfl | hrest
    · rcases hmove with hmove | hmove <;> cases hmove
    · exact ih hrest
  | up _ _ ih =>
    rcases List.mem_cons.mp hname with heq | hrest
    · cases heq
    · exact ih hrest
  | follow _ hsize _ _ ih =>
    rcases List.mem_cons.mp hname with heq | hrest
    · cases heq
      exact hsize
    · exact ih (List.mem_append_right _ hrest)
  | enter _ hsize _ _ _ ih =>
    rcases List.mem_cons.mp hname with heq | hrest
    · cases heq
      exact hsize
    · exact ih hrest
  | free _ hsize _ =>
    cases List.mem_singleton.mp hname
    exact hsize
  | freeClosed _ hsize _ =>
    rcases List.mem_cons.mp hname with heq | hclose
    · cases heq
      exact hsize
    · cases List.mem_singleton.mp hclose

/-- Without links, names lead where they say. -/
theorem Leads.place_of_linkFree {disk : Disk} {root : Place} (hlinks : disk.LinkFreeBelow root)
    {links : Nat} {front back : List Bytes} {spot : Spot}
    (h : Leads disk links (root ++ front) (back.map .enter) spot) :
    spot.place = root ++ (front ++ back) := by
  induction back generalizing front with
  | nil =>
    cases h
    simp [Spot.place]
  | cons name rest ih =>
    have hassoc : root ++ front ++ [name] = root ++ (front ++ [name]) := List.append_assoc _ _ _
    generalize hmoves : (name :: rest).map Move.enter = moves at h
    cases h with
    | done => cases hmoves
    | stay _ hmove _ =>
      cases hmoves
      rcases hmove with hmove | hmove <;> cases hmove
    | up => cases hmoves
    | follow _ _ hlink _ =>
      cases hmoves
      rw [hassoc] at hlink
      exact absurd hlink (not_link_of_linkFreeBelow hlinks)
    | enter _ _ _ _ hrest =>
      cases hmoves
      rw [hassoc] at hrest
      rw [ih hrest, List.append_assoc, List.singleton_append]
    | free =>
      obtain ⟨hname, hrest⟩ := List.cons.inj hmoves
      cases hname
      rw [List.map_eq_nil_iff.mp hrest, ← List.append_assoc]
      rfl
    | freeClosed =>
      obtain ⟨-, hrest⟩ := List.cons.inj hmoves
      have hmem : Move.close ∈ rest.map Move.enter := by simp [hrest]
      simp at hmem

/-- Names that lead through directories lead to what stands at their place, unless one of them is
too long. -/
theorem walk_names {disk : Disk} (hdisk : disk.WellFormed) (links : Nat) {place names : Place}
    {item : Item} (hitem : disk.get? (place ++ names) = some item)
    (hlink : ∀ target, item ≠ .link target) : disk.walk links place (names.map .enter) =
      if names.any (Path.maxNameBytes < ·.length) then .error .nameTooLong
      else .ok (.taken (place ++ names)) := by
  induction names generalizing place with
  | nil => simp
  | cons name rest ih =>
    have hhere := directory_of_get?_append hdisk (by simp) hitem
    have hassoc : place ++ name :: rest = (place ++ [name]) ++ rest := by simp
    rw [hassoc] at hitem
    rw [List.map_cons]
    by_cases hsize : Path.maxNameBytes < name.length
    · rw [walk_tooLong hhere hsize]
      simp [hsize]
    · have hnext : ∃ found, disk.get? (place ++ [name]) = some found ∧
          ∀ target, found ≠ .link target := by
        by_cases hrest : rest = []
        · subst hrest
          exact ⟨item, by simpa using hitem, hlink⟩
        · exact ⟨_, directory_of_get?_append hdisk hrest hitem, by simp⟩
      obtain ⟨found, hfound, hnolink⟩ := hnext
      rw [walk_enter hhere (Nat.le_of_not_lt hsize) hfound hnolink, ih hitem, hassoc]
      simp [hsize]

/-! ## Paths -/

theorem locate_eq_ok_iff {disk : Disk} {path : Path} {spot : Spot} :
    disk.locate path = .ok spot ↔ path.refusal? = none ∧
      Leads disk maxLinks (start disk.home path) path.moves spot := by
  unfold locate locateMoves
  cases path.refusal? with
  | none => simp [walk_eq_ok_iff]
  | some e => simp

theorem find_eq_ok_iff {disk : Disk} {path : Path} {place : Place} :
    disk.find path = .ok place ↔ disk.locate path = .ok (.taken place) := by
  unfold find
  split <;> simp_all

theorem bytes_ne_of_refusal? {path : Path} (h : path.refusal? = none) : path.bytes ≠ [] := by
  intro htext
  simp [Path.refusal?, htext] at h

theorem bytes_ne_of_find {disk : Disk} {path : Path} {place : Place}
    (h : disk.find path = .ok place) : path.bytes ≠ [] :=
  bytes_ne_of_refusal? (locate_eq_ok_iff.mp (find_eq_ok_iff.mp h)).1

/-- A path leads to the same place after the disk has grown. -/
theorem find_of_grows {before after : Disk} (hgrows : Grows before after) {path : Path}
    {place : Place} (h : before.find path = .ok place) : after.find path = .ok place := by
  obtain ⟨hrefusal, hleads⟩ := locate_eq_ok_iff.mp (find_eq_ok_iff.mp h)
  rw [find_eq_ok_iff, locate_eq_ok_iff]
  refine ⟨hrefusal, ?_⟩
  rw [start, hgrows.home, ← start]
  exact hleads.grows hgrows (by simp) (by simp)

/-- Where names lead from a directory, if they lead through directories. -/
def reach (root : Path) (place : Place) (names : List Bytes) : Except FileError Place :=
  match (root.enter names).refusal? with
  | some e => .error e
  | none =>
    if names.any (Path.maxNameBytes < ·.length) then .error .nameTooLong
    else .ok (place ++ names)

theorem eq_of_reach {root : Path} {place found : Place} {names : List Bytes}
    (h : reach root place names = .ok found) : found = place ++ names := by
  unfold reach at h
  split at h
  · cases h
  · split at h
    · cases h
    · cases h
      rfl

section Root
variable {disk : Disk} {root : Path} {place : Place} (hroot : disk.find root = .ok place)
include hroot

/-- A path that leads to a place can be continued there. -/
theorem walk_words_append : ∃ left, ∀ rest,
    disk.walk maxLinks (start disk.home root) (root.words.map Path.moveOf ++ rest) =
      disk.walk left place rest := by
  obtain ⟨-, hleads⟩ := locate_eq_ok_iff.mp (find_eq_ok_iff.mp hroot)
  unfold Path.moves at hleads
  refine hleads.walk_append ?_
  split <;> simp

/-- A walk to a directory, continued by names, is a walk from its place. -/
theorem locate_enter {names : List Bytes} (hnames : ∀ name ∈ names, Path.IsName name)
    (hnil : names ≠ []) (hrefusal : (root.enter names).refusal? = none) :
    ∃ left, disk.locate (root.enter names) = disk.walk left place (names.map .enter) := by
  have hbytes := bytes_ne_of_find hroot
  obtain ⟨left, hleft⟩ := walk_words_append hroot
  refine ⟨left, ?_⟩
  have hstart : start disk.home (root.enter names) = start disk.home root := by
    rw [start, Path.isAbsolute_enter hnames hbytes, ← start]
  rw [locate, locateMoves, hrefusal, Path.moves_enter hnames hbytes hnil, hstart]
  exact hleft _

/-- What stands below a directory, unless it is a link, is found where it stands, and only its path
decides whether. -/
theorem find_enter (hdisk : disk.WellFormed) {names : List Bytes} (hnil : names ≠ [])
    {item : Item} (hitem : disk.get? (place ++ names) = some item)
    (hlink : ∀ target, item ≠ .link target) :
    disk.find (root.enter names) = reach root place names := by
  have hnames := isName_of_get?_append hdisk hitem
  unfold reach
  cases hrefusal : (root.enter names).refusal? with
  | some e => simp [find, locate, locateMoves, hrefusal]
  | none =>
    obtain ⟨left, hleft⟩ := locate_enter hroot hnames hnil hrefusal
    rw [find, hleft, walk_names hdisk left hitem hlink]
    by_cases hsize : names.any (Path.maxNameBytes < ·.length)
    · simp [hsize]
    · simp [hsize]

/-- Below a directory without links, names lead where they say. -/
theorem place_of_locate_enter (hlinks : disk.LinkFreeBelow place) {names : List Bytes}
    (hnames : ∀ name ∈ names, Path.IsName name) (hnil : names ≠ []) {spot : Spot}
    (h : disk.locate (root.enter names) = .ok spot) : spot.place = place ++ names := by
  obtain ⟨left, hleft⟩ := locate_enter hroot hnames hnil (locate_eq_ok_iff.mp h).1
  rw [hleft, walk_eq_ok_iff, ← List.append_nil place] at h
  simpa using h.place_of_linkFree hlinks

end Root

theorem refusal?_ne_notFound {path : Path} (hpath : path.bytes ≠ []) :
    path.refusal? ≠ some .notFound := by
  unfold Path.refusal?
  rw [if_neg hpath]
  split
  · simp
  · split <;> simp

theorem reach_ne_notFound {root : Path} (hroot : root.bytes ≠ []) {place : Place}
    {names : List Bytes} (hnames : ∀ name ∈ names, Path.IsName name) :
    reach root place names ≠ .error .notFound := by
  have hrefusal := refusal?_ne_notFound (Path.bytes_enter_ne hnames hroot)
  unfold reach
  split
  · rename_i e he
    rw [he] at hrefusal
    simpa using hrefusal
  · split <;> simp

end Disk
end TestExclusions
