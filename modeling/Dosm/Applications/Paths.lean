import Dosm.Applications.OrgTree
import Dosm.Python.Casing

namespace Dosm.Applications

open Models Python Like Transition

/-! Units by their paths and back.

A path joins the names from the root down to the unit. It is read by splitting at
the slashes and going down name by name; of the two sides of a comparison the
database folds one and Python the other.
-/

/-- `OrgUnit.path_str`, given the nodes of the path. -/
def pathText (chain : List OrgUnit) : String := " / ".intercalate (chain.map OrgUnit.name)

def pathNames (text : String) : List String := ((split '/' text).map strip).filter (· ≠ "")

def SameName (tables : CaseTables) (part : String) (row : OrgUnit) : Prop :=
  asciiLower row.name = (tables.lowerText part).toList

instance {tables : CaseTables} {part : String} {row : OrgUnit} : Decidable (SameName tables part row) :=
  inferInstanceAs (Decidable (_ = _))

def namedChild (tables : CaseTables) (units : Table OrgUnit) (parentId : Option Int) (part : String)
    (tid : Option Int) : Except Raised (Option OrgUnit) :=
  scalarOneOrNone <| units.rows.filter fun row =>
    SameName tables part row && row.parentId = parentId && tid.all fun tenant => row.tenantId = tenant

def descend (tables : CaseTables) (units : Table OrgUnit) (tid : Option Int) :
    Option OrgUnit → List String → Except Raised (Option OrgUnit)
  | node, [] => .ok node
  | node, part :: rest =>
      match namedChild tables units (node.map (·.id)) part tid with
      | .error raised => .error raised
      | .ok none => .ok none
      | .ok (some child) => descend tables units tid (some child) rest

def getByPath (tables : CaseTables) (units : Table OrgUnit) (text : String) (tid : Option Int) :
    Except Raised (Option OrgUnit) :=
  descend tables units tid none (pathNames text)

/-- The separator does not occur in the name, and both foldings agree on it. -/
def Addressable (tables : CaseTables) (unit : OrgUnit) : Prop :=
  '/' ∉ unit.name.toList ∧ SameName tables unit.name unit

/-! A joined path. -/

section Join

variable {name text : String} {chain : List OrgUnit} {chars rest : List Char}

def namesOf (chars : List Char) : List String :=
  ((chars.splitOn '/').map fun piece => strip (String.ofList piece)).filter (· ≠ "")

theorem pathNames_eq : pathNames text = namesOf text.toList := by
  simp only [pathNames, namesOf, split, List.map_map, Function.comp_def]

theorem strip_space : strip (String.ofList (' ' :: chars)) = strip (String.ofList chars) := by
  have space : isSpace ' ' = true := by decide
  simp only [strip, String.toList_ofList, List.dropWhile_cons_of_pos space]

theorem strip_append_space : strip (String.ofList (chars ++ [' '])) = strip (String.ofList chars) := by
  have space : isSpace ' ' = true := by decide
  simp only [strip, String.toList_ofList, List.dropWhile_append, List.dropWhile_cons_of_pos space,
    List.dropWhile_nil]
  cases kept : chars.dropWhile isSpace with
  | nil => rfl
  | cons first others => exact congrArg String.ofList (List.rdropWhile_concat_pos _ _ _ space)

theorem namesOf_space : namesOf (' ' :: chars) = namesOf chars := by
  unfold namesOf
  rw [List.splitOn_cons_eq_if_modifyHead, if_neg (by decide)]
  cases pieces : chars.splitOn '/' with
  | nil => exact absurd pieces (List.splitOn_ne_nil '/' chars)
  | cons first others => rw [List.modifyHead_cons, List.map_cons, List.map_cons, strip_space]

theorem namesOf_join (plain : '/' ∉ name.toList) (stripped : strip name = name) (some : name ≠ "") :
    namesOf (name.toList ++ " / ".toList ++ rest) = name :: namesOf rest := by
  have spelled : name.toList ++ " / ".toList ++ rest = (name.toList ++ [' ']) ++ '/' :: ' ' :: rest := by
    simp
  have plainPiece : '/' ∉ name.toList ++ [' '] := by simpa using plain
  have tail : namesOf (' ' :: rest) = namesOf rest := namesOf_space
  unfold namesOf at tail ⊢
  rw [spelled, List.splitOn_append_cons_self_of_not_mem plainPiece, List.map_cons, strip_append_space,
    String.ofList_toList, stripped, List.filter_cons_of_pos (by simpa using some), tail]

theorem pathNames_pathText
    (each : ∀ node ∈ chain, '/' ∉ node.name.toList ∧ strip node.name = node.name ∧ node.name ≠ "") :
    pathNames (pathText chain) = chain.map OrgUnit.name := by
  rw [pathNames_eq]
  induction chain with
  | nil => decide
  | cons first rest ih =>
      obtain ⟨plain, stripped, some⟩ := each first List.mem_cons_self
      have below := ih fun node member => each node (List.mem_cons_of_mem first member)
      cases rest with
      | nil =>
          have alone : pathText [first] = first.name := by simp [pathText]
          rw [alone, namesOf, List.splitOn_eq_singleton plain, List.map_singleton, String.ofList_toList, stripped,
            List.filter_cons_of_pos (by simpa using some), List.filter_nil, List.map_singleton]
      | cons second others =>
          have joined : (pathText (first :: second :: others)).toList =
              first.name.toList ++ " / ".toList ++ (pathText (second :: others)).toList := by
            simp [pathText, String.intercalate_cons_cons]
          rw [joined, namesOf_join plain stripped some, below]
          rfl

end Join

/-! The way down. -/

section Descent

variable {tables : CaseTables} {lower : String → String} {units : Table OrgUnit} {above : Option OrgUnit}
  {row unit node : OrgUnit} {chain : List OrgUnit} {parts : List String} {part : String} {tenant : Int}
  {rounds : Nat}

def Linked (units : Table OrgUnit) (tenant : Int) : Option OrgUnit → List OrgUnit → Prop
  | _, [] => True
  | above, node :: rest => node ∈ units.rows ∧ node.parentId = above.map (·.id) ∧ node.tenantId = tenant ∧
      Linked units tenant (some node) rest

theorem getLast_cons : (node :: chain).getLast?.or above = chain.getLast?.or (some node) := by
  rw [List.getLast?_cons]
  cases chain.getLast? <;> rfl

theorem linked_append : Linked units tenant above (chain ++ [row]) ↔
    Linked units tenant above chain ∧ row ∈ units.rows ∧
      row.parentId = (chain.getLast?.or above).map (·.id) ∧ row.tenantId = tenant := by
  induction chain generalizing above with
  | nil => simp [Linked]
  | cons node rest ih =>
      simp only [List.cons_append, Linked, ih, getLast_cons]
      tauto

theorem Linked.member (linked : Linked units tenant above chain) (listed : node ∈ chain) :
    node ∈ units.rows := by
  induction chain generalizing above with
  | nil => cases listed
  | cons first rest ih =>
      rcases List.mem_cons.mp listed with rfl | later
      · exact linked.1
      · exact ih linked.2.2.2 later

theorem linked_path (grown : Grown lower units) (member : row ∈ units.rows)
    (walked : path units rounds row = some chain) :
    Linked units row.tenantId none chain ∧ chain.getLast? = some row := by
  induction rounds generalizing row chain with
  | zero => cases walked
  | succ rounds ih =>
      have placed := grown.placed row member
      rw [path] at walked
      cases found : parentOf units row with
      | none =>
          simp only [found, Option.some.injEq] at walked
          have root : row.parentId = none := by
            unfold Placed at placed
            cases required : parentTier row.tier with
            | none => simpa only [required] using placed
            | some above =>
                simp only [required, found] at placed
                obtain ⟨parent, absurdity, _⟩ := placed
                cases absurdity
          rw [← walked]
          exact ⟨⟨member, root, rfl, trivial⟩, rfl⟩
      | some parent =>
          simp only [found] at walked
          obtain ⟨start, startWalked, rfl⟩ := Option.map_eq_some_iff.mp walked
          obtain ⟨reference, isParent, present⟩ := Option.bind_eq_some_iff.mp found
          obtain ⟨parentMember, parentKey⟩ := Table.get_eq_some_iff.mp present
          have owned : parent.tenantId = row.tenantId := by
            unfold Placed at placed
            cases required : parentTier row.tier with
            | none =>
                simp only [required] at placed
                rw [placed] at isParent
                cases isParent
            | some above =>
                simp only [required, found, Option.some.injEq] at placed
                obtain ⟨_, rfl, _, owned⟩ := placed
                exact owned
          obtain ⟨linked, last⟩ := ih parentMember startWalked
          rw [owned] at linked
          refine ⟨linked_append.mpr ⟨linked, member, ?_, rfl⟩, by simp⟩
          rw [last, isParent]
          exact congrArg some parentKey.symm

theorem path_of_linked (linked : Linked units tenant none chain) (last : chain.getLast? = some row)
    (enough : chain.length ≤ rounds) : path units rounds row = some chain := by
  induction chain using List.reverseRecOn generalizing row rounds with
  | nil => cases last
  | append_singleton start final ih =>
      obtain ⟨above, member, isParent, _⟩ := linked_append.mp linked
      simp only [List.getLast?_append, List.getLast?_singleton, Option.some_or, Option.some.injEq] at last
      subst last
      rw [List.length_append, List.length_singleton] at enough
      obtain ⟨more, rfl⟩ : ∃ more, rounds = more + 1 := ⟨rounds - 1, by omega⟩
      rw [Option.or_none] at isParent
      cases top : start.getLast? with
      | none =>
          rw [List.getLast?_eq_none_iff] at top
          subst top
          have root : parentOf units final = none := by simp [parentOf, isParent]
          rw [path, root, List.nil_append]
      | some parent =>
          have parentMember : parent ∈ units.rows := by
            obtain ⟨before, rfl⟩ := List.getLast?_eq_some_iff.mp top
            exact (linked_append.mp above).2.1
          have found : parentOf units final = some parent := by
            rw [parentOf, isParent, top]
            exact Table.get_key parentMember
          rw [path, found]
          dsimp only
          rw [ih above top (by omega), Option.map_some]

theorem descend_linked (found : descend tables units (some tenant) above parts = .ok (some unit)) :
    ∃ chain, Linked units tenant above chain ∧ chain.getLast?.or above = some unit ∧
      List.Forall₂ (SameName tables) parts chain := by
  induction parts generalizing above with
  | nil =>
      cases found
      exact ⟨[], trivial, rfl, .nil⟩
  | cons part rest ih =>
      rw [descend] at found
      cases child : namedChild tables units (above.map (·.id)) part (some tenant) with
      | error raised => simp [child] at found
      | ok answer =>
          cases answer with
          | none => simp [child] at found
          | some node =>
              simp only [child] at found
              have only := scalarOneOrNone_some child
              have listed : node ∈ units.rows.filter _ := only ▸ List.mem_singleton_self node
              simp only [List.mem_filter, Bool.and_eq_true, decide_eq_true_eq, Option.all_some] at listed
              obtain ⟨member, ⟨same, isParent⟩, owned⟩ := listed
              obtain ⟨chain, linked, last, matched⟩ := ih found
              exact ⟨node :: chain, ⟨member, isParent, owned, linked⟩, getLast_cons.trans last,
                .cons same matched⟩

theorem namedChild_self (distinct : DistinctBy (fun row => tables.lowerText row.name) units)
    (member : node ∈ units.rows) (agree : SameName tables node.name node) :
    namedChild tables units node.parentId node.name (some node.tenantId) = .ok (some node) := by
  have only : (units.rows.filter fun row => SameName tables node.name row && row.parentId = node.parentId &&
      (some node.tenantId).all fun tenant => row.tenantId = tenant).Perm [node] := by
    refine (List.perm_ext_iff_of_nodup (units.unique.of_map.filter _) (List.nodup_singleton _)).mpr ?_
    intro other
    simp only [List.mem_filter, Bool.and_eq_true, decide_eq_true_eq, Option.all_some, List.mem_singleton]
    constructor
    · rintro ⟨otherMember, ⟨same, sameParent⟩, sameTenant⟩
      refine distinct other otherMember node member ⟨sameParent, sameTenant⟩ ?_
      have folded : asciiLower other.name = asciiLower node.name := same.trans agree.symm
      calc
        tables.lowerText other.name = tables.lowerText (String.ofList (asciiLower other.name)) :=
          CaseTables.lowerText_asciiLower.symm
        _ = tables.lowerText (String.ofList (asciiLower node.name)) := by rw [folded]
        _ = tables.lowerText node.name := CaseTables.lowerText_asciiLower
    · rintro rfl
      exact ⟨member, ⟨agree, rfl⟩, rfl⟩
  rw [namedChild, List.perm_singleton.mp only]
  rfl

theorem descend_names (distinct : DistinctBy (fun row => tables.lowerText row.name) units)
    (linked : Linked units tenant above chain) (agree : ∀ node ∈ chain, SameName tables node.name node) :
    descend tables units (some tenant) above (chain.map OrgUnit.name) = .ok (chain.getLast?.or above) := by
  induction chain generalizing above with
  | nil => rfl
  | cons node rest ih =>
      obtain ⟨member, isParent, owned, below⟩ := linked
      have found := namedChild_self distinct member (agree node List.mem_cons_self)
      rw [isParent, owned] at found
      rw [List.map_cons, descend, found, getLast_cons]
      exact ih below fun other listed => agree other (List.mem_cons_of_mem node listed)

theorem pathNames_plain {text : String} (listed : part ∈ pathNames text) : '/' ∉ part.toList := by
  obtain ⟨piece, pieceListed, rfl⟩ := List.mem_map.mp (List.mem_filter.mp listed).1
  intro inside
  rw [strip, String.toList_ofList] at inside
  have kept := (List.rdropWhile_prefix _ _).sublist.mem inside
  exact split_plain pieceListed ((List.dropWhile_sublist _).mem kept)

theorem SameName.plain (same : SameName tables part row) (partPlain : '/' ∉ part.toList) :
    '/' ∉ row.name.toList := by
  intro slashed
  have inside := CaseTables.slash_asciiLower slashed
  rw [same] at inside
  exact CaseTables.slash_lowerText partPlain inside

theorem plain_of_matched (matched : List.Forall₂ (SameName tables) parts chain)
    (plain : ∀ part ∈ parts, '/' ∉ part.toList) : ∀ node ∈ chain, '/' ∉ node.name.toList := by
  induction matched with
  | nil => nofun
  | cons same _ ih =>
      intro node listed
      rcases List.mem_cons.mp listed with rfl | later
      · exact same.plain (plain _ List.mem_cons_self)
      · exact ih (fun part below => plain part (List.mem_cons_of_mem _ below)) node later

end Descent

/-! Names as the tree keeps them. -/

def Trimmed (units : Table OrgUnit) : Prop :=
  ∀ row ∈ units.rows, strip row.name = row.name ∧ row.name ≠ ""

section Trimmed

variable {lower : String → String} {db after : Database} {operation : OrgOperation} {unit : OrgUnit}
  {tenant : Int} {name tier : String} {parentId : Option Int}

theorem trimmed_create (trimmed : Trimmed db.orgUnits)
    (created : createUnit lower db tenant name tier parentId = .ok after) : Trimmed after.orgUnits := by
  have named := (Checks.guard_ok created).1
  obtain ⟨wanted, _, _, added⟩ := createUnit_ok created
  rw [added]
  intro row member
  rcases Table.mem_insert.mp member with old | rfl
  · exact trimmed row old
  · exact ⟨strip_strip, named⟩

theorem trimmed_update (trimmed : Trimmed db.orgUnits) (updated : updateUnit lower db unit name = .ok after) :
    Trimmed after.orgUnits := by
  have named := (Checks.guard_ok updated).1
  rw [(updateUnit_ok updated).2]
  intro row member
  obtain ⟨old, oldMember, rfl⟩ := Table.mem_modify.mp member
  split
  · exact ⟨strip_strip, named⟩
  · exact trimmed old oldMember

theorem trimmed_perform (trimmed : Trimmed db.orgUnits) : Trimmed (perform lower db operation).orgUnits := by
  cases operation with
  | create tenant name tier parentId =>
      rw [perform]
      cases created : createUnit lower db tenant name tier parentId with
      | error refused => exact trimmed
      | ok after => exact trimmed_create trimmed created
  | update id name =>
      rw [perform]
      cases found : db.orgUnits.get id with
      | none => exact trimmed
      | some unit =>
          dsimp only
          cases updated : updateUnit lower db unit name with
          | error refused => exact trimmed
          | ok after => exact trimmed_update trimmed updated
  | delete id =>
      rw [perform]
      cases found : db.orgUnits.get id with
      | none => exact trimmed
      | some unit => exact fun row member => trimmed row (Table.mem_remove.mp (mem_dropOrphans member)).1

theorem trimmed_reachable (reached : (orgSystem lower).Reachable db) : Trimmed db.orgUnits := by
  have starts (start : Database) (begins : (orgSystem lower).initial start) : Trimmed start.orgUnits := by
    have none : start.orgUnits.rows = [] := congrArg Table.rows begins
    simp [Trimmed, none]
  have preserved (state : Database) (operation : OrgOperation) (after : Database)
      (stepped : (orgSystem lower).step state operation = some after) (before : Trimmed state.orgUnits) :
      Trimmed after.orgUnits := by
    cases stepped
    exact trimmed_perform before
  exact reached.invariant starts preserved

end Trimmed

/-- A unit's path leads back to it exactly when no name on it has a slash in it and
both foldings agree on all of them. -/
theorem path_leads_back_iff (tables : CaseTables) {db : Database} {unit : OrgUnit}
    (reached : (orgSystem tables.lowerText).Reachable db) (member : unit ∈ db.orgUnits.rows) :
    ∃ chain, (∀ rounds ≥ 3, path db.orgUnits rounds unit = some chain) ∧
      (getByPath tables db.orgUnits (pathText chain) (some unit.tenantId) = .ok (some unit) ↔
        ∀ node ∈ chain, Addressable tables node) := by
  have grown := grown_reachable reached
  have trimmed := trimmed_reachable reached
  obtain ⟨chain, short, walked⟩ := grown.tree.paths unit member
  obtain ⟨linked, last⟩ := linked_path grown member (walked 3 (Nat.le_refl 3))
  have names (plain : ∀ node ∈ chain, '/' ∉ node.name.toList) :
      pathNames (pathText chain) = chain.map OrgUnit.name := by
    refine pathNames_pathText fun node listed => ⟨plain node listed, ?_⟩
    exact trimmed node (linked.member listed)
  refine ⟨chain, walked, ?_⟩
  rw [getByPath]
  constructor
  · intro found
    obtain ⟨nodes, nodesLinked, nodesLast, matched⟩ := descend_linked found
    rw [Option.or_none] at nodesLast
    -- The way down ends at the unit, so it is the unit's path.
    have same : nodes = chain := by
      have long := path_of_linked nodesLinked nodesLast (Nat.le_max_left nodes.length 3)
      have again := walked (max nodes.length 3) (Nat.le_max_right nodes.length 3)
      exact Option.some.inj (long.symm.trans again)
    subst same
    have plain := plain_of_matched matched fun part listed => pathNames_plain listed
    rw [names plain, List.forall₂_map_left_iff, List.forall₂_same] at matched
    exact fun node listed => ⟨plain node listed, matched node listed⟩
  · intro addressable
    rw [names fun node listed => (addressable node listed).1,
      descend_names grown.names linked fun node listed => (addressable node listed).2, Option.or_none, last]

/-- The tables as far as one capital outside ASCII goes. -/
def germanTables : CaseTables where
  lower char := if char.isAlpha then [char.toLower] else if char = 'Ü' then ['ü'] else [char]
  cased char := char.isAlpha || char = 'Ü' || char = 'ü'
  caseIgnorable char := char = '.' || char = ':'
  letter char alpha := by
    refine ⟨if_pos alpha, by simp [alpha], ?_⟩
    by_contra ignorable
    simp only [Bool.not_eq_false, Bool.or_eq_true, decide_eq_true_eq] at ignorable
    rcases ignorable with rfl | rfl <;> cases alpha
  slash char := by
    by_cases same : char = '/'
    · subst same
      decide
    · have folded : char.toLower ≠ '/' := by
        intro folds
        cases capital : char.isUpper with
        | false => exact same ((toLower_of_not_capital capital).symm.trans folds)
        | true =>
            have lower := isLower_toLower capital
            rw [folds] at lower
            cases lower
      split
      · simp [same, folded.symm]
      · split
        · simp [same]
        · simp [same, eq_comm]

def slashedUnits : List OrgOperation :=
  [.create 1 "Über" "application" none, .create 1 "CI/CD" "application" none]

/-- Neither a capital outside ASCII nor a slash survives the way to the path and back. -/
theorem paths_lost : ∃ db first second,
    (orgSystem germanTables.lowerText).run oneTenant slashedUnits = some db ∧
      db.orgUnits.rows = [first, second] ∧ path db.orgUnits 3 first = some [first] ∧
      getByPath germanTables db.orgUnits (pathText [first]) (some first.tenantId) = .ok none ∧
      path db.orgUnits 3 second = some [second] ∧
      getByPath germanTables db.orgUnits (pathText [second]) (some second.tenantId) = .ok none := by
  refine ⟨_, _, _, rfl, rfl, ?_⟩
  decide

def webUnit : OrgUnit :=
  { id := 1, tenantId := 1, name := "Web", slug := "web", tier := .application, parentId := none }

def prodUnit : OrgUnit :=
  { id := 2, tenantId := 1, name := "Prod", slug := "prod", tier := .environment, parentId := some 1 }

def plainUnits : List OrgOperation :=
  [.create 1 "Web" "application" none, .create 1 "Prod" "environment" (some 1)]

def plainTree : Database := plainUnits.foldl (perform germanTables.lowerText) oneTenant

theorem path_leads_back_prod :
    getByPath germanTables plainTree.orgUnits "Web / Prod" (some 1) = .ok (some prodUnit) := by
  have reached : (orgSystem germanTables.lowerText).Reachable plainTree := ⟨oneTenant, plainUnits, rfl, rfl⟩
  have listed : prodUnit ∈ plainTree.orgUnits.rows := by decide
  obtain ⟨chain, walked, back⟩ := path_leads_back_iff germanTables reached listed
  have isChain : path plainTree.orgUnits 3 prodUnit = some [webUnit, prodUnit] := by decide
  cases (walked 3 (Nat.le_refl 3)).symm.trans isChain
  refine back.mpr ?_
  intro node member
  rcases List.mem_pair.mp member with rfl | rfl
  · exact ⟨by decide, by decide⟩
  · exact ⟨by decide, by decide⟩

end Dosm.Applications
