import LanguageHost.FileSystem.Change
import Mathlib.Tactic.Lemma

/-!
# Where paths lead after a change

A file or folder that is made where nothing stood changes one place of the tree. Whatever a path
led to before, it leads to afterwards, and the paths that led to the free place lead to the new node
now. That is shown for one walk first, by its recursion, and then for links. A path that led
nowhere may lead somewhere afterwards, since a folder on its way may be there now.
-/

namespace LanguageHost

/-- What is seen of a node without looking into it. -/
inductive Face where
  | file (inode : Nat)
  | folder
  | link (target : String)
  | device
  deriving DecidableEq

namespace Node

/-- What is seen of a node. -/
def face : Node → Face
  | file inode => .file inode
  | folder _ _ => .folder
  | link target => .link target
  | device => .device

/-- What is seen under names in a tree. -/
def look (root : Node) (names : List String) : Option Face :=
  (root.at? names).map face

lemma isFolder_iff {node : Node} : node.isFolder = true ↔ node.face = .folder := by
  cases node <;> simp [isFolder, face]

lemma exists_eq_folder {node : Node} (h : node.isFolder = true) :
    ∃ modified es, node = folder modified es := by
  cases node with
  | folder modified es => exact ⟨modified, es, rfl⟩
  | _ => cases h

lemma eq_link_of_face {node : Node} {target : String} (h : node.face = .link target) :
    node = .link target := by
  cases node <;> simp_all [face]

lemma eq_file_of_face {node : Node} {inode : Nat} (h : node.face = .file inode) :
    node = .file inode := by
  cases node <;> simp_all [face]

/-! ## Places in a tree -/

lemma at?_concat (names : List String) (name : String) (root : Node) :
    root.at? (names ++ [name]) =
      (root.at? names).bind fun node => named? name node.entries := by
  induction names generalizing root with
  | nil =>
    rw [List.nil_append, at?, at?, Option.bind_some]
    cases named? name root.entries <;> rfl
  | cons first names ih =>
    rw [List.cons_append, at?, at?]
    cases named? first root.entries with
    | none => rfl
    | some next => exact ih next

/-- Above every place there is one. -/
lemma at?_dropLast {names : List String} {root node : Node} (h : root.at? names = some node) :
    root.at? names.dropLast = some ((root.at? names.dropLast).getD root) := by
  rcases List.eq_nil_or_concat names with rfl | ⟨front, last, rfl⟩
  · rfl
  · rw [List.concat_eq_append, at?_concat] at h
    obtain ⟨up, hup, -⟩ := Option.bind_eq_some_iff.1 h
    rw [List.concat_eq_append, List.dropLast_concat, hup, Option.getD_some]

/-! ## Putting a node at a free place -/

lemma named?_append (name : String) (es more : List (String × Node)) :
    named? name (es ++ more) = (named? name es).or (named? name more) := by
  induction es with
  | nil => rfl
  | cons e es ih =>
    rw [List.cons_append, named?, named?]
    split
    · rfl
    · exact ih

lemma named?_map (name : String) (node : Node) (es : List (String × Node)) (other : String) :
    named? other (es.map fun e => if e.1 = name then (name, node) else e) =
      if other = name then (named? name es).map fun _ => node else named? other es := by
  induction es with
  | nil => simp [named?]
  | cons e es ih =>
    rw [List.map_cons, named?, named?, named?, ih]
    by_cases hhere : e.1 = name
    · by_cases hsame : other = name
      · simp [hhere, hsame]
      · simp [hhere, hsame, Ne.symm hsame]
    · by_cases hsame : other = name
      · simp [hhere, hsame]
      · simp [hhere, hsame]

lemma isSome_named? (name : String) (es : List (String × Node)) :
    (named? name es).isSome = es.any fun e => e.1 = name := by
  induction es with
  | nil => rfl
  | cons e es ih =>
    rw [named?, List.any_cons, ← ih]
    by_cases hhere : e.1 = name <;> simp [hhere]

lemma named?_filter (name : String) (es : List (String × Node)) (other : String) :
    named? other (es.filter fun e => e.1 ≠ name) =
      if other = name then none else named? other es := by
  induction es with
  | nil => simp [named?]
  | cons e es ih =>
    rw [named?, List.filter_cons]
    by_cases hhere : e.1 = name
    · rw [if_neg (by simp [hhere]), ih]
      by_cases hsame : other = name
      · rw [if_pos hsame, if_pos hsame]
      · rw [if_neg hsame, if_neg hsame, if_neg fun h => hsame (h.symm.trans hhere)]
    · rw [if_pos (by simp [hhere]), named?, ih]
      by_cases hsame : other = name
      · rw [if_pos hsame, if_pos hsame, if_neg fun h => hhere (h.trans hsame)]
      · rw [if_neg hsame, if_neg hsame]

/-- The entries under names after one of them is put or taken away. -/
lemma named?_putEntry (name : String) (change : Option Node) (es : List (String × Node))
    (other : String) :
    named? other (putEntry name change es) = if other = name then change else named? other es := by
  cases change with
  | none => exact named?_filter name es other
  | some node =>
    rw [putEntry, ← isSome_named?]
    cases hold : named? name es with
    | some old =>
      rw [Option.isSome_some, if_pos rfl, named?_map, hold]
      rfl
    | none =>
      rw [Option.isSome_none, if_neg Bool.false_ne_true, named?_append, named?, named?]
      by_cases hsame : other = name
      · rw [if_pos hsame, if_pos hsame.symm, hsame, hold]
        rfl
      · rw [if_neg hsame, if_neg (Ne.symm hsame)]
        exact Option.or_none

/-- A new entry stands behind the others. -/
lemma putEntry_new {name : String} {es : List (String × Node)} (hnew : named? name es = none)
    (node : Node) : putEntry name (some node) es = es ++ [(name, node)] := by
  rw [putEntry, ← isSome_named?, hnew, Option.isSome_none, if_neg Bool.false_ne_true]

lemma put_cons (now : Int) (change : Option Node) (name : String) {rest : List String}
    (hrest : rest ≠ []) (modified : Int) {es : List (String × Node)} {next : Node}
    (hnext : named? name es = some next) :
    put now change (name :: rest) (folder modified es) =
      folder modified (putEntry name (some (put now change rest next)) es) := by
  cases rest with
  | nil => exact absurd rfl hrest
  | cons other rest =>
    rw [put, hnext]
    rintro ⟨⟩

/-- The entries of a folder after one of them is put or taken away. -/
lemma at?_put {parent : List String} {root : Node} {modified : Int} {es : List (String × Node)}
    (hparent : root.at? parent = some (folder modified es)) (now : Int) (change : Option Node)
    (name : String) :
    ∃ stamp, (put now change (parent ++ [name]) root).at? parent =
      some (folder stamp (putEntry name change es)) := by
  induction parent generalizing root with
  | nil =>
    cases hparent
    exact ⟨_, rfl⟩
  | cons first parent ih =>
    rw [at?] at hparent
    cases root with
    | folder rootModified rootEntries =>
      rw [entries] at hparent
      cases hnext : named? first rootEntries with
      | none => simp [hnext] at hparent
      | some next =>
        rw [hnext] at hparent
        obtain ⟨stamp, hput⟩ := ih hparent
        refine ⟨stamp, ?_⟩
        rw [List.cons_append, put_cons now _ first (by simp) rootModified hnext, at?, entries,
          named?_putEntry, if_pos rfl]
        exact hput
    | _ => cases hparent

/-- Where a node without entries is put, or one is taken away, is all that is seen anew. -/
lemma look_put {parent : List String} {name : String} {root holder : Node} {change : Option Node}
    (hholder : root.at? parent = some holder) (hfolder : holder.isFolder = true)
    (hplain : ∀ old, named? name holder.entries = some old → old.entries = [])
    (hempty : ∀ node, change = some node → node.entries = []) (now : Int) (names : List String) :
    (put now change (parent ++ [name]) root).look names =
      if names = parent ++ [name] then change.map face else root.look names := by
  induction parent generalizing root names with
  | nil =>
    cases hholder
    obtain ⟨modified, es, rfl⟩ := exists_eq_folder hfolder
    cases names with
    | nil => rfl
    | cons other rest =>
      rw [List.nil_append, put, look, at?, entries, named?_putEntry, look, at?, entries]
      by_cases hsame : other = name
      · subst hsame
        cases rest with
        | nil => cases change <;> simp [at?]
        | cons x rest =>
          have hbelow : ∀ node : Node, node.entries = [] → node.at? (x :: rest) = none := by
            intro node hnode
            rw [at?, hnode, named?]
          rw [if_pos rfl, if_neg (by simp)]
          cases change with
          | none =>
            cases hold : named? other es with
            | none => rfl
            | some old => simp [hbelow old (hplain old hold)]
          | some node =>
            cases hold : named? other es with
            | none => simp [hbelow node (hempty node rfl)]
            | some old => simp [hbelow node (hempty node rfl), hbelow old (hplain old hold)]
      · rw [if_neg hsame, if_neg fun h => hsame (List.cons.inj h).1]
  | cons first parent ih =>
    rw [at?] at hholder
    cases root with
    | folder modified es =>
      rw [entries] at hholder
      cases hnext : named? first es with
      | none => simp [hnext] at hholder
      | some next =>
        rw [hnext] at hholder
        rw [List.cons_append, put_cons now _ first (by simp) modified hnext]
        cases names with
        | nil => rfl
        | cons other rest =>
          rw [look, at?, entries, named?_putEntry, look, at?, entries]
          by_cases hsame : other = first
          · rw [if_pos hsame, hsame, hnext]
            simpa [look] using ih hholder rest
          · rw [if_neg hsame, if_neg fun h => hsame (List.cons.inj h).1]
    | _ => cases hholder

end Node

namespace FileSystem

/-! ## Walks -/

/-- A name that leads on to what stands under it. -/
structure IsOrdinary (name : String) : Prop where
  notDot : name ≠ "."
  notUp : name ≠ ".."
  short : ¬ maxNameBytes < name.utf8ByteSize

/-- The walks that do not fail, step by step. -/
inductive Leads (root : Node) (followLast : Bool) :
    List String → Node → List String → Reach → Prop
  | arrived {here : List String} {node : Node} :
    Leads root followLast here node [] (.done (.node here node))
  | dot {here rest : List String} {node : Node} {r : Reach} : node.isFolder = true →
    Leads root followLast here node rest r → Leads root followLast here node ("." :: rest) r
  | up {here rest : List String} {node : Node} {r : Reach} : node.isFolder = true →
    Leads root followLast here.dropLast ((root.at? here.dropLast).getD root) rest r →
    Leads root followLast here node (".." :: rest) r
  | missing {here : List String} {node : Node} {name : String} : node.isFolder = true →
    IsOrdinary name → Node.named? name node.entries = none →
    Leads root followLast here node [name] (.done (.missing (here ++ [name])))
  | link {here : List String} {node : Node} {name target : String} : node.isFolder = true →
    IsOrdinary name → Node.named? name node.entries = some (.link target) → followLast = false →
    Leads root followLast here node [name] (.done (.node (here ++ [name]) (.link target)))
  | through {here rest : List String} {node : Node} {name target : String} :
    node.isFolder = true → IsOrdinary name →
    Node.named? name node.entries = some (.link target) → (rest = [] → followLast = true) →
    Leads root followLast here node (name :: rest) (.through here target rest)
  | next {here rest : List String} {node next : Node} {name : String} {r : Reach} :
    node.isFolder = true → IsOrdinary name → Node.named? name node.entries = some next →
    (∀ target, next ≠ .link target) → Leads root followLast (here ++ [name]) next rest r →
    Leads root followLast here node (name :: rest) r

variable {root root' node : Node} {followLast : Bool} {here rest : List String}

/-- A walk is one of these unless it fails. -/
lemma leads_walk (hok : ∀ errno, walk root followLast here node rest ≠ .failed errno) :
    Leads root followLast here node rest (walk root followLast here node rest) := by
  fun_induction walk root followLast here node rest with
  | case1 => exact .arrived
  | case3 here node rest hfolder ih => exact .dot (by simpa using hfolder) (ih hok)
  | case4 here node rest hfolder up _ ih => exact .up (by simpa using hfolder) (ih hok)
  | case6 here node name rest hfolder hdot hup hshort hnone hlast =>
    rw [List.isEmpty_iff.1 hlast]
    exact .missing (by simpa using hfolder) ⟨hdot, hup, hshort⟩ hnone
  | case8 here node name rest hfolder hdot hup hshort target hlink hlast =>
    rw [Bool.and_eq_true] at hlast
    rw [List.isEmpty_iff.1 hlast.1]
    exact .link (by simpa using hfolder) ⟨hdot, hup, hshort⟩ hlink (by simpa using hlast.2)
  | case9 here node name rest hfolder hdot hup hshort target hlink hlast =>
    refine .through (by simpa using hfolder) ⟨hdot, hup, hshort⟩ hlink fun hrest => ?_
    simpa [hrest] using hlast
  | case10 here node name rest hfolder hdot hup hshort next hother hnext ih =>
    exact .next (by simpa using hfolder) ⟨hdot, hup, hshort⟩ hnext hother (ih hok)
  | case2 | case5 | case7 => exact absurd rfl (hok _)

/-- Each of these is how a walk goes. -/
lemma Leads.walk_eq {r : Reach} (h : Leads root followLast here node rest r) :
    walk root followLast here node rest = r := by
  induction h with
  | arrived => rw [walk]
  | dot hfolder _ ih => simp [walk, hfolder, ih]
  | up hfolder _ ih => simp [walk, hfolder, ih]
  | missing hfolder hname hnone =>
    simp [walk, hfolder, hname.notDot, hname.notUp, hname.short, hnone]
  | link hfolder hname hlink hlast =>
    simp [walk, hfolder, hname.notDot, hname.notUp, hname.short, hlink, hlast]
  | through hfolder hname hlink hlast =>
    simpa [walk, hfolder, hname.notDot, hname.notUp, hname.short, hlink] using hlast
  | @next here rest node next name r hfolder hname hnext hother _ ih =>
    cases next with
    | link target => exact absurd rfl (hother target)
    | _ => simpa [walk, hfolder, hname.notDot, hname.notUp, hname.short, hnext] using ih

/-- A walk ends at places of the tree: at what it finds, below a folder in which nothing has the
last name, or at the folder with the link that it has met. -/
inductive Reach.Placed (root : Node) : Reach → Prop
  | node {l : List String} {n : Node} : root.at? l = some n → Placed root (.done (.node l n))
  | missing {l : List String} {holder : Node} {name : String} : root.at? l = some holder →
    holder.isFolder = true → Node.named? name holder.entries = none →
    Placed root (.done (.missing (l ++ [name])))
  | through {l : List String} {n : Node} {target : String} {rest : List String} :
    root.at? l = some n → Placed root (.through l target rest)

lemma at?_next (hnode : root.at? here = some node) (name : String) :
    root.at? (here ++ [name]) = Node.named? name node.entries := by
  rw [Node.at?_concat, hnode, Option.bind_some]

lemma Leads.placed {r : Reach} (h : Leads root followLast here node rest r)
    (hnode : root.at? here = some node) : r.Placed root := by
  induction h with
  | arrived => exact .node hnode
  | dot _ _ ih => exact ih hnode
  | up _ _ ih => exact ih (Node.at?_dropLast hnode)
  | missing hfolder _ hnone => exact .missing hnode hfolder hnone
  | link _ _ hlink _ => exact .node ((at?_next hnode _).trans hlink)
  | through => exact .through hnode
  | next _ _ hnext _ _ ih => exact ih ((at?_next hnode _).trans hnext)

/-! ## Trees that grow -/

/-- A tree with one more place, which is no link. -/
structure Grown (root root' : Node) (names : List String) (face : Face) : Prop where
  free : root.look names = none
  look : ∀ l, root'.look l = if l = names then some face else root.look l
  noLink : ∀ target, face ≠ .link target

/-- Where a path leads before and after a tree has grown. -/
inductive Found.Kept (names : List String) (face : Face) : Found → Found → Prop
  | node {l : List String} {n n' : Node} : n'.face = n.face →
    Kept names face (.node l n) (.node l n')
  | missing {l : List String} : l ≠ names → Kept names face (.missing l) (.missing l)
  | found {n : Node} : n.face = face → Kept names face (.missing names) (.node names n)

/-- Where a walk ends before and after a tree has grown. -/
inductive Reach.Kept (names : List String) (face : Face) : Reach → Reach → Prop
  | done {found found' : Found} : Found.Kept names face found found' →
    Kept names face (.done found) (.done found')
  | through {l : List String} {target : String} {rest : List String} :
    Kept names face (.through l target rest) (.through l target rest)

section Grown

variable {names : List String} {face : Face}

lemma Grown.at? (hg : Grown root root' names face) (hnode : root.at? here = some node) :
    ∃ node', root'.at? here = some node' ∧ node'.face = node.face := by
  have hlook := hg.look here
  have hother : here ≠ names := by
    rintro rfl
    have hfree := hg.free
    rw [Node.look, hnode] at hfree
    cases hfree
  rw [if_neg hother, Node.look, Node.look, hnode] at hlook
  exact Option.map_eq_some_iff.1 hlook

lemma Grown.at?_free (hg : Grown root root' names face) (hnone : root.at? here = none)
    (hother : here ≠ names) : root'.at? here = none := by
  have hlook := hg.look here
  rw [if_neg hother, Node.look, Node.look, hnone] at hlook
  exact Option.map_eq_none_iff.1 hlook

lemma Grown.at?_names (hg : Grown root root' names face) :
    ∃ node', root'.at? names = some node' ∧ node'.face = face := by
  have hlook := hg.look names
  rw [if_pos rfl] at hlook
  exact Option.map_eq_some_iff.1 hlook

lemma isFolder_of_face {node node' : Node} (hface : node'.face = node.face)
    (hfolder : node.isFolder = true) : node'.isFolder = true :=
  Node.isFolder_iff.2 (hface.trans (Node.isFolder_iff.1 hfolder))

/-- **Walks.** Where a walk led, it leads after the tree has grown, and it meets the same link. -/
lemma Leads.grown (hg : Grown root root' names face) {r : Reach}
    (h : Leads root followLast here node rest r) (hnode : root.at? here = some node) {node' : Node}
    (hnode' : root'.at? here = some node') (hface : node'.face = node.face) :
    ∃ r', Leads root' followLast here node' rest r' ∧ Reach.Kept names face r r' := by
  induction h generalizing node' with
  | arrived => exact ⟨_, .arrived, .done (.node hface)⟩
  | dot hfolder _ ih =>
    obtain ⟨r', hr', hkept⟩ := ih hnode hnode' hface
    exact ⟨r', .dot (isFolder_of_face hface hfolder) hr', hkept⟩
  | up hfolder _ ih =>
    have hup := Node.at?_dropLast hnode
    obtain ⟨up', hup', hsame⟩ := hg.at? hup
    obtain ⟨r', hr', hkept⟩ := ih hup hup' hsame
    refine ⟨r', .up (isFolder_of_face hface hfolder) ?_, hkept⟩
    rwa [hup', Option.getD_some]
  | @missing here node name hfolder hname hnone =>
    have hfolder' := isFolder_of_face hface hfolder
    by_cases hplace : here ++ [name] = names
    · obtain ⟨new, hnew, hnewFace⟩ := hg.at?_names
      rw [← hplace, at?_next hnode'] at hnew
      refine ⟨_, .next hfolder' hname hnew ?_ .arrived, ?_⟩
      · rintro target rfl
        exact hg.noLink target hnewFace.symm
      · rw [hplace]
        exact .done (.found hnewFace)
    · have hnone' := hg.at?_free ((at?_next hnode name).trans hnone) hplace
      rw [at?_next hnode'] at hnone'
      exact ⟨_, .missing hfolder' hname hnone', .done (.missing hplace)⟩
  | link hfolder hname hlink hlast =>
    obtain ⟨n', hn', hsame⟩ := hg.at? ((at?_next hnode _).trans hlink)
    rw [at?_next hnode', Node.eq_link_of_face hsame] at hn'
    exact ⟨_, .link (isFolder_of_face hface hfolder) hname hn' hlast, .done (.node rfl)⟩
  | through hfolder hname hlink hlast =>
    obtain ⟨n', hn', hsame⟩ := hg.at? ((at?_next hnode _).trans hlink)
    rw [at?_next hnode', Node.eq_link_of_face hsame] at hn'
    exact ⟨_, .through (isFolder_of_face hface hfolder) hname hn' hlast, .through⟩
  | next hfolder hname hnext hother _ ih =>
    obtain ⟨n', hn', hsame⟩ := hg.at? ((at?_next hnode _).trans hnext)
    obtain ⟨r', hr', hkept⟩ := ih ((at?_next hnode _).trans hnext) hn' hsame
    rw [at?_next hnode'] at hn'
    refine ⟨r', .next (isFolder_of_face hface hfolder) hname hn' ?_ hr', hkept⟩
    rintro target rfl
    exact hother target (Node.eq_link_of_face hsame.symm)

end Grown

/-! ## Links -/

/-- The ways that names and links lead without failing, link by link. -/
inductive Goes (root : Node) (followLast : Bool) : Nat → List String → List String → Found → Prop
  | arrived {links : Nat} {here rest : List String} {found : Found} :
    Leads root followLast here ((root.at? here).getD root) rest (.done found) →
    Goes root followLast links here rest found
  | link {links : Nat} {here rest folder more : List String} {target : String} {found : Found} :
    Leads root followLast here ((root.at? here).getD root) rest (.through folder target more) →
    target.isEmpty = false →
    Goes root followLast links (if (Path.ofString target).isAbsolute then [] else folder)
      (Path.steps target ++ more) found →
    Goes root followLast (links + 1) here rest found

/-- A way of links and names is one of these unless it fails. -/
lemma goes_follow {links : Nat} {found : Found}
    (h : follow root followLast links here rest = .ok found) :
    Goes root followLast links here rest found := by
  have hleads : ∀ {here rest r}, walk root followLast here ((root.at? here).getD root) rest = r →
      (∀ errno, r ≠ .failed errno) →
      Leads root followLast here ((root.at? here).getD root) rest r := by
    rintro here rest r rfl hok
    exact leads_walk hok
  fun_induction follow root followLast links here rest with
  | case1 links here rest there hwalk =>
    cases h
    exact .arrived (hleads hwalk (by rintro errno ⟨⟩))
  | case5 here rest folder target more hwalk links htarget base ih =>
    exact .link (hleads hwalk (by rintro errno ⟨⟩)) (by simpa using htarget) (ih h)
  | case2 | case3 | case4 => cases h

/-- Each of these is how links are followed. -/
lemma Goes.follow_eq {links : Nat} {found : Found}
    (h : Goes root followLast links here rest found) :
    follow root followLast links here rest = .ok found := by
  induction h with
  | @arrived links _ _ _ hleads => cases links <;> rw [follow, hleads.walk_eq]
  | link hleads htarget _ ih =>
    rw [follow, hleads.walk_eq]
    dsimp only
    rw [if_neg (by simp [htarget]), ih]

/-- Where a way goes on behind a link there is a place. -/
lemma Leads.at?_base {folder more : List String} {target : String}
    (h : Leads root followLast here node rest (.through folder target more))
    (hnode : root.at? here = some node) {base : List String}
    (hbase : base = if (Path.ofString target).isAbsolute then [] else folder) :
    root.at? base = some ((root.at? base).getD root) := by
  rw [hbase]
  split
  · rfl
  · cases h.placed hnode with
    | through hfolder => rw [hfolder, Option.getD_some]

lemma Goes.placed {links : Nat} {found : Found} (h : Goes root followLast links here rest found)
    (hhere : root.at? here = some ((root.at? here).getD root)) :
    (Reach.done found).Placed root := by
  induction h with
  | arrived hleads => exact hleads.placed hhere
  | link hleads _ _ ih => exact ih (hleads.at?_base hhere rfl)

/-- **Links.** Where links lead, they lead after the tree has grown. -/
lemma Goes.grown {names : List String} {face : Face} (hg : Grown root root' names face)
    {links : Nat} {found : Found} (h : Goes root followLast links here rest found)
    (hhere : root.at? here = some ((root.at? here).getD root)) :
    ∃ found', Goes root' followLast links here rest found' ∧
      Found.Kept names face found found' := by
  have hstep : ∀ {here rest r}, Leads root followLast here ((root.at? here).getD root) rest r →
      root.at? here = some ((root.at? here).getD root) →
      ∃ r', Leads root' followLast here ((root'.at? here).getD root') rest r' ∧
        Reach.Kept names face r r' := by
    intro here rest r hleads hhere
    obtain ⟨node', hnode', hface⟩ := hg.at? hhere
    obtain ⟨r', hr', hkept⟩ := hleads.grown hg hhere hnode' hface
    exact ⟨r', by rwa [hnode', Option.getD_some], hkept⟩
  induction h with
  | arrived hleads =>
    obtain ⟨_, hr', ⟨hkept⟩⟩ := hstep hleads hhere
    exact ⟨_, .arrived hr', hkept⟩
  | link hleads htarget _ ih =>
    obtain ⟨_, hr', ⟨⟩⟩ := hstep hleads hhere
    obtain ⟨found', hfound', hkept⟩ := ih (hleads.at?_base hhere rfl)
    exact ⟨found', .link hr' htarget hfound', hkept⟩

/-! ## Links at the end of a path -/

/-- If the last link is followed, a walk goes as it does else, or on from the link at its end. -/
lemma Leads.not_last {r : Reach} (h : Leads root true here node rest r) :
    Leads root false here node rest r ∨
      ∃ l n, Leads root false here node rest (.done (.node l n)) := by
  induction h with
  | arrived => exact .inl .arrived
  | dot hfolder _ ih => exact ih.imp (.dot hfolder) fun ⟨l, n, h⟩ => ⟨l, n, .dot hfolder h⟩
  | up hfolder _ ih => exact ih.imp (.up hfolder) fun ⟨l, n, h⟩ => ⟨l, n, .up hfolder h⟩
  | missing hfolder hname hnone => exact .inl (.missing hfolder hname hnone)
  | link hfolder hname hlink hlast => cases hlast
  | @through here rest node name target hfolder hname hlink _ =>
    cases rest with
    | nil => exact .inr ⟨_, _, .link hfolder hname hlink rfl⟩
    | cons next rest => exact .inl (.through hfolder hname hlink (by rintro ⟨⟩))
  | next hfolder hname hnext hother _ ih =>
    exact ih.imp (.next hfolder hname hnext hother)
      fun ⟨l, n, h⟩ => ⟨l, n, .next hfolder hname hnext hother h⟩

/-- A walk that does not end at a link goes the same way if the last link is followed. -/
lemma Leads.last {r : Reach} (h : Leads root false here node rest r)
    (hr : ∀ l target, r ≠ .done (.node l (.link target))) : Leads root true here node rest r := by
  induction h with
  | arrived => exact .arrived
  | dot hfolder _ ih => exact .dot hfolder (ih hr)
  | up hfolder _ ih => exact .up hfolder (ih hr)
  | missing hfolder hname hnone => exact .missing hfolder hname hnone
  | link => exact absurd rfl (hr _ _)
  | through hfolder hname hlink _ => exact .through hfolder hname hlink fun _ => rfl
  | next hfolder hname hnext hother _ ih => exact .next hfolder hname hnext hother (ih hr)

/-- What is found behind the last link stands at the end of the path, or the link does. -/
lemma Goes.not_last {links : Nat} {l : List String} {n : Node}
    (h : Goes root true links here rest (.node l n)) :
    ∃ l' n', Goes root false links here rest (.node l' n') := by
  generalize hfound : Found.node l n = found at h
  induction h with
  | arrived hleads =>
    subst hfound
    obtain hsame | ⟨l', n', hlink⟩ := hleads.not_last
    · exact ⟨l, n, .arrived hsame⟩
    · exact ⟨l', n', .arrived hlink⟩
  | link hleads htarget _ ih =>
    obtain hsame | ⟨l', n', hlink⟩ := hleads.not_last
    · obtain ⟨l', n', hgoes⟩ := ih hfound
      exact ⟨l', n', .link hsame htarget hgoes⟩
    · exact ⟨l', n', .arrived hlink⟩

/-- What is no link is found whether or not the last link is followed. -/
lemma Goes.last {links : Nat} {found : Found} (h : Goes root false links here rest found)
    (hfound : ∀ l target, found ≠ .node l (.link target)) :
    Goes root true links here rest found := by
  induction h with
  | arrived hleads =>
    refine .arrived (hleads.last fun l target hlink => ?_)
    cases hlink
    exact hfound l target rfl
  | link hleads htarget _ ih =>
    exact .link (hleads.last (by rintro l target ⟨⟩)) htarget (ih hfound)

end FileSystem

end LanguageHost
