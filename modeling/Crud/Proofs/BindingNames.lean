import Crud.Proofs.BoundMarkers
import Crud.Proofs.Description
import Crud.Proofs.JsonShape
import Crud.Proofs.Trimming

/-!
# Names of bindings

The name of a binding is what is left of a text after blanks, then colons, then blanks once more are
removed at both ends. Three removals take blanks and colons from the ends of exactly those texts in
which no two colons on one side are separated by blanks; of any other text they leave a name that
starts or ends with a colon and loses it when it is brought into form again. Whatever builds or
reads a statement brings the names of its bindings into form once.
-/

namespace Crud

open Text

/-- Colons are no blanks. -/
theorem endsFree_of_colons {chars : List Char} (colons : ∀ char ∈ chars, (char == ':') = true) :
    EndsFree isBlank chars := by
  refine endsFree_of_forall fun char listed => ?_
  rw [eq_of_beq (colons char listed)]
  decide

/-- Blanks are no colons. -/
theorem endsFree_of_blanks {chars : List Char} (blanks : ∀ char ∈ chars, isBlank char = true) :
    EndsFree (· == ':') chars := by
  refine endsFree_of_forall fun char listed => beq_false_of_ne fun same => ?_
  have blank := blanks char listed
  rw [same] at blank
  exact absurd blank (by decide)

/-- The text neither starts nor ends with a blank or a colon. -/
structure Trimmed (text : String) : Prop where
  /-- No blank at the ends. -/
  blanks : EndsFree isBlank text.toList
  /-- No colon at the ends. -/
  colons : EndsFree (· == ':') text.toList

instance : DecidablePred Trimmed := fun text =>
  decidable_of_iff (EndsFree isBlank text.toList ∧ EndsFree (· == ':') text.toList)
    ⟨fun free => ⟨free.1, free.2⟩, fun free => ⟨free.blanks, free.colons⟩⟩

/-- Blanks, then colons, then blanks. -/
def Rim (chars : List Char) : Prop :=
  ∃ first colons last : List Char, chars = first ++ colons ++ last ∧
    (∀ char ∈ first, isBlank char = true) ∧ (∀ char ∈ colons, (char == ':') = true) ∧
    ∀ char ∈ last, isBlank char = true

/-- The text is a trimmed text between blanks and colons, and no colon on either side is separated
by blanks from another colon on that side. -/
def Settled (text : String) : Prop :=
  ∃ front core back : List Char, text.toList = front ++ core ++ back ∧
    Rim front ∧ Rim back ∧ Trimmed (.ofList core)

/-- The name of a binding is what is left after three removals. -/
theorem toList_bindingName (text : String) :
    (bindingName text).toList =
      stripEnds isBlank (stripEnds (· == ':') (stripEnds isBlank text.toList)) := by
  simp only [bindingName, trim, String.toList_ofList]

/-- No blank is left at the ends of a name. -/
theorem endsFree_bindingName (text : String) : EndsFree isBlank (bindingName text).toList := by
  rw [toList_bindingName]
  exact endsFree_stripEnds ..

/-- A name stays as it is exactly when it is trimmed. -/
theorem bindingName_eq_self_iff {name : String} : bindingName name = name ↔ Trimmed name := by
  rw [← String.toList_inj, toList_bindingName]
  constructor
  · intro same
    -- Every removal leaves a part of what was there, and in the end all is there.
    have second := stripEnds_sublist isBlank (stripEnds (· == ':') (stripEnds isBlank name.toList))
    have first := stripEnds_sublist (· == ':') (stripEnds isBlank name.toList)
    rw [same] at second
    have blanks : stripEnds isBlank name.toList = name.toList :=
      (stripEnds_sublist _ _).antisymm (second.trans first)
    rw [blanks] at first second
    have colons : stripEnds (· == ':') name.toList = name.toList := first.antisymm second
    exact ⟨stripEnds_eq_self_iff.mp blanks, stripEnds_eq_self_iff.mp colons⟩
  · intro trimmed
    have blanks := stripEnds_eq_self_iff.mpr trimmed.blanks
    rw [blanks, stripEnds_eq_self_iff.mpr trimmed.colons, blanks]

namespace Rim

/-- A rim read backwards is one. -/
theorem reverse {chars : List Char} (rim : Rim chars) : Rim chars.reverse := by
  obtain ⟨first, colons, last, rfl, isFirst, isColons, isLast⟩ := rim
  refine ⟨last.reverse, colons.reverse, first.reverse, ?_, ?_, ?_, ?_⟩
  · simp only [List.reverse_append, List.append_assoc]
  · simpa only [List.mem_reverse] using isLast
  · simpa only [List.mem_reverse] using isColons
  · simpa only [List.mem_reverse] using isFirst

/-- The three removals leave nothing of a rim in front of a text. -/
theorem dropWhile_eq_nil {chars : List Char} (rim : Rim chars) :
    ((chars.dropWhile isBlank).dropWhile (· == ':')).dropWhile isBlank = [] := by
  obtain ⟨first, colons, last, rfl, isFirst, isColons, isLast⟩ := rim
  rw [List.append_assoc, List.dropWhile_append_of_pos isFirst]
  cases colons with
  | nil =>
    rw [List.nil_append, List.dropWhile_eq_nil_iff.mpr isLast]
    rfl
  | cons colon more =>
    have isColon : (colon == ':') = true := isColons colon List.mem_cons_self
    have stops : isBlank colon = false := by rw [eq_of_beq isColon]; decide
    have kept : (colon :: more ++ last).dropWhile isBlank = colon :: more ++ last := by
      rw [List.cons_append, List.dropWhile_cons, stops]
      rfl
    rw [kept, List.dropWhile_append_of_pos isColons, List.dropWhile_eq_nil_iff]
    exact fun char listed => isLast char ((List.dropWhile_sublist _).subset listed)

/-- The three removals leave nothing of a rim behind a text. -/
theorem rdropWhile_eq_nil {chars : List Char} (rim : Rim chars) :
    ((chars.rdropWhile isBlank).rdropWhile (· == ':')).rdropWhile isBlank = [] := by
  simp only [List.rdropWhile, List.reverse_reverse, rim.reverse.dropWhile_eq_nil, List.reverse_nil]

/-- The three removals leave nothing of two rims. -/
theorem stripEnds_append_eq_nil {front back : List Char} (isFront : Rim front)
    (isBack : Rim back) :
    stripEnds isBlank (stripEnds (· == ':') (stripEnds isBlank (front ++ back))) = [] := by
  obtain ⟨before, left, inner, rfl, isBefore, isLeft, isInner⟩ := isFront
  obtain ⟨outer, right, after, rfl, isOuter, isRight, isAfter⟩ := isBack
  have middle : ∀ char ∈ inner ++ outer, isBlank char = true :=
    List.forall_mem_append.mpr ⟨isInner, isOuter⟩
  have leftFree := endsFree_of_colons isLeft
  have rightFree := endsFree_of_colons isRight
  have nothing : stripEnds isBlank [] = [] := rfl
  -- If there are colons on one side only, they are all that the first removal leaves.
  by_cases noLeft : left = []
  · have rest := stripEnds_append rightFree
      (List.forall_mem_append.mpr ⟨isBefore, middle⟩) isAfter
    subst noLeft
    simp only [List.append_nil, List.append_assoc] at rest ⊢
    rw [rest, stripEnds_eq_nil_iff.mpr isRight, nothing]
  by_cases noRight : right = []
  · have rest := stripEnds_append leftFree isBefore
      (List.forall_mem_append.mpr ⟨middle, isAfter⟩)
    subst noRight
    simp only [List.append_nil, List.append_assoc] at rest ⊢
    rw [rest, stripEnds_eq_nil_iff.mpr isLeft, nothing]
  have rest := stripEnds_append (leftFree.around rightFree noLeft noRight (inner ++ outer))
    isBefore isAfter
  have between := stripEnds_append (endsFree_of_blanks middle) isLeft isRight
  simp only [List.append_assoc] at rest between ⊢
  rw [rest, between, stripEnds_eq_nil_iff.mpr middle]

end Rim

/-- The removals leave the trimmed text between two rims. -/
theorem bindingName_of_rims {text : String} {front core back : List Char}
    (whole : text.toList = front ++ core ++ back) (isFront : Rim front) (isBack : Rim back)
    (trimmed : Trimmed (.ofList core)) : bindingName text = .ofList core := by
  have blanks := trimmed.blanks
  have colons := trimmed.colons
  rw [String.toList_ofList] at blanks colons
  rw [← String.toList_inj, toList_bindingName, String.toList_ofList, whole]
  by_cases some : core = []
  · subst some
    rw [List.append_nil]
    exact isFront.stripEnds_append_eq_nil isBack
  · rw [stripEnds_around some blanks, stripEnds_around some colons, stripEnds_around some blanks,
      isFront.dropWhile_eq_nil, isBack.rdropWhile_eq_nil, List.nil_append, List.append_nil]

/-- The removals leave a trimmed name exactly of a settled text. -/
theorem trimmed_bindingName_iff {text : String} : Trimmed (bindingName text) ↔ Settled text := by
  constructor
  · intro trimmed
    obtain ⟨before, after, whole, isBefore, isAfter⟩ := exists_stripEnds isBlank text.toList
    obtain ⟨front, back, inner, isFront, isBack⟩ :=
      exists_stripEnds (· == ':') (stripEnds isBlank text.toList)
    obtain ⟨first, last, core, isFirst, isLast⟩ :=
      exists_stripEnds isBlank (stripEnds (· == ':') (stripEnds isBlank text.toList))
    rw [← toList_bindingName] at core
    refine ⟨before ++ front ++ first, (bindingName text).toList, last ++ back ++ after, ?_,
      ⟨before, front, first, rfl, isBefore, isFront, isFirst⟩,
      ⟨last, back, after, rfl, isLast, isBack, isAfter⟩, ?_⟩
    · rw [core] at inner
      rw [inner] at whole
      rw [whole]
      simp only [List.append_assoc]
    · rwa [String.ofList_toList]
  · rintro ⟨front, core, back, whole, isFront, isBack, trimmed⟩
    rwa [bindingName_of_rims whole isFront isBack trimmed]

instance : DecidablePred Settled := fun _ => decidable_of_iff _ trimmed_bindingName_iff

/-- The names that a step is given for bindings. -/
def Step.givenNames : Step → List String
  | bind pairs | replaceBindings pairs => pairs.map Prod.fst
  | bindLists columns _ => columns
  | key column _ | keys column _ => [column]
  | _ => []

/-- The names that a script is given for bindings. What nests bind is dropped with their
statements. -/
def Script.givenNames : Script → List String
  | done => []
  | step head rest => head.givenNames ++ rest.givenNames
  | nest _ _ rest => rest.givenNames

/-- The names that a description gives for bindings. -/
def Statement.describedNames (text : String) : List String :=
  match (Json.ofText? text).bind (·.fields? fieldNames) with
  | some values =>
    match values.getLast? with
    | some (some (.object members)) => members.map Prod.fst
    | _ => []
  | none => []

/-- A statement that scripts build from an empty or a described one, with the names that were given
for its bindings. -/
inductive Statement.NamesGiven : Statement → List String → Prop where
  /-- An empty statement has no bindings. -/
  | empty (action : Action) : NamesGiven { action } []
  /-- A statement that is read from its description. -/
  | described {text : String} {statement : Statement}
      (read : ofDescription? text = some statement) : NamesGiven statement (describedNames text)
  /-- A script that goes on from a statement. -/
  | grown {start finish : Statement} {names : List String} {script : Script}
      (before : NamesGiven start names) (ran : script.run start = .ok finish) :
      NamesGiven finish (names ++ script.givenNames)

/-- The name is that of a text, or the name of a text with a number. -/
def NamedBy (text name : String) : Prop :=
  name = bindingName text ∨ ∃ index : Nat, name = bindingName text ++ toString index

/-- The names of bindings come from the texts. -/
def Bindings.NamedFrom (bindings : Bindings) (texts : List String) : Prop :=
  ∀ name ∈ bindings.names, ∃ text ∈ texts, NamedBy text name

/-- A step sets names of the texts that it is given. -/
theorem Step.namedBy_of_mem_boundPairs {step : Step} {name : String}
    (bound : name ∈ step.boundPairs.map Prod.fst) :
    ∃ text ∈ step.givenNames, NamedBy text name := by
  have named {pairs : List (String × Value)}
      (listed : name ∈ (pairs.map (Prod.map bindingName id)).map Prod.fst) :
      ∃ text ∈ pairs.map Prod.fst, NamedBy text name := by
    rw [List.map_map] at listed
    obtain ⟨pair, isPair, rfl⟩ := List.mem_map.mp listed
    exact ⟨pair.1, List.mem_map.mpr ⟨pair, isPair, rfl⟩, .inl rfl⟩
  cases step with
  | bind pairs => exact named bound
  | bindLists columns values =>
    obtain ⟨text, listed, form⟩ := named bound
    obtain ⟨pair, isPair, rfl⟩ := List.mem_map.mp listed
    exact ⟨pair.1, (List.of_mem_zip isPair).1, form⟩
  | replaceBindings pairs =>
    obtain ⟨text, listed, form⟩ := named bound
    have given := Bindings.mem_names_setAll.mp listed
    exact ⟨text, given.resolve_left List.not_mem_nil, form⟩
  | key column value =>
    exact ⟨column, List.mem_cons_self, .inl (List.mem_singleton.mp bound)⟩
  | keys column values =>
    obtain ⟨pair, isPair, rfl⟩ := List.mem_map.mp bound
    obtain ⟨⟨value, index⟩, -, rfl⟩ := List.mem_map.mp isPair
    exact ⟨column, List.mem_cons_self, .inr ⟨index, rfl⟩⟩
  | _ => contradiction

namespace Bindings.NamedFrom

/-- Names that come from texts come from more texts. -/
theorem mono {bindings : Bindings} {texts more : List String} (named : bindings.NamedFrom texts)
    (part : texts ⊆ more) : bindings.NamedFrom more := by
  intro name listed
  obtain ⟨text, given, form⟩ := named name listed
  exact ⟨text, part given, form⟩

/-- A step adds names of the texts that it is given. -/
theorem step {step : Step} {start finish : Statement} {texts : List String}
    (before : start.bindings.NamedFrom texts) (ran : step.run start = .ok finish) :
    finish.bindings.NamedFrom (texts ++ step.givenNames) := by
  intro name listed
  rw [(step.binds ran).bindings, Bindings.mem_names_setAll] at listed
  rcases listed with old | isNew
  · have kept : name ∈ start.bindings.names := by
      split at old
      · contradiction
      · exact old
    exact before.mono (List.subset_append_left _ _) name kept
  · obtain ⟨text, given, form⟩ := Step.namedBy_of_mem_boundPairs isNew
    exact ⟨text, List.mem_append_right _ given, form⟩

/-- A script adds names of the texts that it is given. -/
theorem script {script : Script} {start finish : Statement} {texts : List String}
    (before : start.bindings.NamedFrom texts) (ran : script.run start = .ok finish) :
    finish.bindings.NamedFrom (texts ++ script.givenNames) := by
  induction script generalizing start texts with
  | done =>
    cases ran
    exact before.mono (List.subset_append_left _ _)
  | step head rest ih =>
    obtain ⟨middle, first, others⟩ := Script.run_step_eq_ok.mp ran
    have all := ih (before.step first) others
    rwa [List.append_assoc] at all
  | nest inner connector rest _ ih =>
    obtain ⟨middle, first, others⟩ := Script.run_nest_eq_ok.mp ran
    obtain ⟨body, -, rfl⟩ := Script.exists_of_nest first
    have same : (start.addGroup body connector).bindings.NamedFrom texts := before
    exact ih same others

end Bindings.NamedFrom

/-- The bindings of a statement are read from the last field. -/
theorem Statement.exists_bindings_of_ofJson? {json : Json} {statement : Statement}
    (read : ofJson? json = some statement) :
    ∃ values member, json.fields? fieldNames = some values ∧ values.getLast? = some member ∧
      Json.withDefault .empty Bindings.ofJson? member = some statement.bindings := by
  rw [ofJson?] at read
  obtain ⟨values, isFields, read⟩ := Option.bind_eq_some_iff.mp read
  split at read
  next action distinct tables fields whereClause havingClause groups orders page joins positional
      bindings =>
    simp only [Option.bind_eq_bind, Option.bind_eq_some_iff, Option.some.injEq] at read
    obtain ⟨_, -, _, -, _, -, _, -, _, -, _, -, _, -, _, -, _, -, _, -, _, -, named, isNamed,
      rfl⟩ := read
    exact ⟨_, bindings, isFields, rfl, isNamed⟩
  next => contradiction

namespace Bindings

/-- Bindings are read from the members of an object, whose names are brought into their form. -/
theorem exists_pairs_of_ofJson? {json : Json} {bindings : Bindings}
    (read : ofJson? json = some bindings) :
    ∃ members pairs, json = .object members ∧ pairs.map Prod.fst = members.map Prod.fst ∧
      bindings = empty.bindAll (ofPairs pairs).entries := by
  cases json with
  | object members =>
    obtain ⟨pairs, isPairs, same⟩ := Option.bind_eq_some_iff.mp read
    refine ⟨members, pairs, rfl, ?_, (Option.some.inj same).symm⟩
    clear read same
    induction members generalizing pairs with
    | nil =>
      cases isPairs
      rfl
    | cons member members ih =>
      rw [List.mapM_cons] at isPairs
      obtain ⟨pair, isPair, isPairs⟩ := Option.bind_eq_some_iff.mp isPairs
      obtain ⟨rest, isRest, isPairs⟩ := Option.bind_eq_some_iff.mp isPairs
      obtain ⟨value, -, rfl⟩ := Option.map_eq_some_iff.mp isPair
      cases isPairs
      exact congrArg (member.1 :: ·) (ih rest isRest)
  | _ => contradiction

/-- The names of bindings that are read come from those that are written. -/
theorem namedFrom_of_ofJson? {members : List (String × Json)} {bindings : Bindings}
    (read : ofJson? (.object members) = some bindings) :
    bindings.NamedFrom (members.map Prod.fst) := by
  obtain ⟨_, pairs, same, names, rfl⟩ := exists_pairs_of_ofJson? read
  cases same
  intro name listed
  rw [bindAll_eq_setAll, mem_names_setAll] at listed
  have bound := listed.resolve_left List.not_mem_nil
  rw [List.map_map] at bound
  obtain ⟨entry, isEntry, rfl⟩ := List.mem_map.mp bound
  have given := mem_names_setAll.mp (List.mem_map.mpr ⟨entry, isEntry, rfl⟩)
  exact ⟨entry.1, names ▸ given.resolve_left List.not_mem_nil, .inl rfl⟩

/-- Bindings whose names are in their form have the same names, in the same order, when they are
read from anything that has the shape of their written form. -/
theorem names_of_shape {bindings again : Bindings} {json : Json}
    (same : json.shape = bindings.toJson.shape)
    (fixed : ∀ name ∈ bindings.names, bindingName name = name)
    (read : ofJson? json = some again) : again.names = bindings.names := by
  obtain ⟨members, rfl, shapes⟩ := Json.eq_object_of_shape same
  obtain ⟨_, pairs, isObject, names, rfl⟩ := exists_pairs_of_ofJson? read
  cases isObject
  have sameNames : pairs.map Prod.fst = bindings.names := by
    rw [names, Json.keys_of_membersShape shapes, List.map_map]
    rfl
  have nodup : (pairs.map Prod.fst).Nodup := sameNames ▸ bindings.nodup
  have whole : (ofPairs pairs).entries = pairs := entries_setAll empty nodup
  rw [whole, bindAll_of_fixed empty (sameNames ▸ fixed)]
  exact (congrArg (List.map Prod.fst) whole).trans sameNames

end Bindings

/-- The names of bindings that are described come from the description. -/
theorem Statement.namedFrom_describedNames {text : String} {statement : Statement}
    (read : ofDescription? text = some statement) :
    statement.bindings.NamedFrom (describedNames text) := by
  obtain ⟨json, parsed, read⟩ := Option.bind_eq_some_iff.mp read
  obtain ⟨values, member, isFields, isLast, named⟩ := exists_bindings_of_ofJson? read
  cases member with
  | none =>
    have same : statement.bindings = .empty := (Option.some.inj named).symm
    rw [Bindings.NamedFrom, same]
    nofun
  | some written =>
    obtain ⟨members, -, rfl, -⟩ := Bindings.exists_pairs_of_ofJson? named
    have given : describedNames text = members.map Prod.fst := by
      rw [describedNames, parsed, Option.bind_some, isFields]
      simp only [isLast]
    rw [given]
    exact Bindings.namedFrom_of_ofJson? named

/-- The names of bindings come from the names that were given for them. -/
theorem Statement.NamesGiven.namedFrom {statement : Statement} {given : List String}
    (names : statement.NamesGiven given) : statement.bindings.NamedFrom given := by
  induction names with
  | empty action => nofun
  | described read => exact namedFrom_describedNames read
  | grown before ran ih => exact ih.script ran

/-- The names of bindings stay the same when a statement is read back from its description, if they
are in their form. What becomes of its numbers does not matter. -/
theorem Statement.names_of_description {statement again : Statement}
    (fixed : ∀ name ∈ statement.bindings.names, bindingName name = name)
    (read : ofDescription? statement.describe = some again) :
    again.bindings.names = statement.bindings.names := by
  rw [ofDescription?] at read
  obtain ⟨json, parsed, read⟩ := Option.bind_eq_some_iff.mp read
  obtain ⟨members, rfl, same⟩ := Json.eq_object_of_shape (Json.shape_of_ofText?_text parsed)
  obtain ⟨values, member, isFields, isLast, named⟩ := exists_bindings_of_ofJson? read
  have keys : members.map Prod.fst = fieldNames := Json.keys_of_membersShape same
  have nodup : (members.map Prod.fst).Nodup := by
    rw [keys]
    decide
  rw [Json.fields?_object nodup] at isFields
  cases isFields
  have last : members.lookup "bindings" = member := Option.some.inj isLast
  have written : (members.lookup "bindings").map Json.shape =
      some statement.bindings.toJson.shape := by
    rw [← Json.lookup_membersShape, same, Json.lookup_membersShape]
    rfl
  obtain ⟨found, isFound, shapes⟩ := Option.map_eq_some_iff.mp written
  rw [← last, isFound] at named
  exact Bindings.names_of_shape shapes fixed named

/-- A digit is neither a blank nor a colon. -/
theorem not_blank_of_isDigit {char : Char} (digit : isDigit char = true) :
    isBlank char = false ∧ (char == ':') = false := by
  rw [isDigit, Bool.and_eq_true, decide_eq_true_eq, decide_eq_true_eq] at digit
  have low : 48 ≤ char.toNat := digit.1
  have high : char.toNat ≤ 57 := digit.2
  constructor
  · simp only [isBlank, blankRanges, List.any_cons, List.any_nil, Bool.or_eq_false_iff,
      Bool.and_eq_false_iff, decide_eq_false_iff_not, and_true]
    omega
  · refine beq_false_of_ne fun same => ?_
    have colon : char.toNat = 58 := by rw [same]; rfl
    omega

/-- A number after a name that does not begin with the character ends the name without it. -/
theorem endsFree_numbered {test : Char → Bool} {name : String}
    (plain : ∀ char, isDigit char = true → test char = false)
    (front : ∀ char ∈ name.toList.head?, test char = false) (index : Nat) :
    EndsFree test (name ++ toString index).toList := by
  have some : Nat.toDigits 10 index ≠ [] := Nat.toDigits_ne_nil
  have digits : ∀ char ∈ Nat.toDigits 10 index, test char = false := fun char listed =>
    plain char (Json.isDigit_of_mem_toDigits listed)
  rw [String.toList_append, Nat.toString_eq_ofList_toDigits, String.toList_ofList]
  constructor
  · by_cases none : name.toList = []
    · rw [none, List.nil_append]
      exact fun char first => digits char (List.mem_of_head? first)
    · rwa [List.head?_append_of_ne_nil _ none]
  · rw [List.getLast?_append_of_ne_nil _ some]
    exact fun char last => digits char (List.mem_of_getLast? last)

/-- No name that comes from a text starts or ends with a blank. -/
theorem NamedBy.endsFree {text name : String} (named : NamedBy text name) :
    EndsFree isBlank name.toList := by
  obtain rfl | ⟨index, rfl⟩ := named
  · exact endsFree_bindingName text
  · exact endsFree_numbered (fun _ digit => (not_blank_of_isDigit digit).1)
      (endsFree_bindingName text).front index

/-- Names that come from a settled text are trimmed. -/
theorem NamedBy.trimmed {text name : String} (named : NamedBy text name)
    (settled : Settled text) : Trimmed name := by
  have trimmed := trimmed_bindingName_iff.mpr settled
  refine ⟨named.endsFree, ?_⟩
  obtain rfl | ⟨index, rfl⟩ := named
  · exact trimmed.colons
  · exact endsFree_numbered (fun _ digit => (not_blank_of_isDigit digit).2)
      trimmed.colons.front index

/-- Names of bindings lose their blanks, and exactly a text in which no colon on one side is
separated by blanks from another one loses its colons too. Only then the name stays as it is when it
is brought into form again. However a statement is built or read, no name of a binding therefore
starts or ends with a blank; and if the names that were given are such texts, then none starts or
ends with a colon, and reading the statement back neither renames nor merges bindings. -/
theorem binding_names_trimmed {statement : Statement} {given : List String}
    (names : statement.NamesGiven given) :
    (∀ text, (Trimmed (bindingName text) ↔ Settled text) ∧
      (bindingName (bindingName text) = bindingName text ↔ Settled text)) ∧
    (∀ name ∈ statement.bindings.names, EndsFree isBlank name.toList) ∧
    ((∀ text ∈ given, Settled text) →
      (∀ name ∈ statement.bindings.names, Trimmed name ∧ bindingName name = name) ∧
      ∀ again, Statement.ofDescription? statement.describe = some again →
        again.bindings.names = statement.bindings.names) := by
  refine ⟨fun text => ⟨trimmed_bindingName_iff,
    bindingName_eq_self_iff.trans trimmed_bindingName_iff⟩, fun name bound => ?_,
    fun settled => ?_⟩
  · obtain ⟨text, -, named⟩ := names.namedFrom name bound
    exact named.endsFree
  · have trimmed : ∀ name ∈ statement.bindings.names, Trimmed name := by
      intro name bound
      obtain ⟨text, isGiven, named⟩ := names.namedFrom name bound
      exact named.trimmed (settled text isGiven)
    have fixed : ∀ name ∈ statement.bindings.names, bindingName name = name :=
      fun name bound => bindingName_eq_self_iff.mpr (trimmed name bound)
    exact ⟨fun name bound => ⟨trimmed name bound, fixed name bound⟩,
      fun again read => Statement.names_of_description fixed read⟩

/-- A name with a colon before it, and two numbered ones. -/
def sampleNames (name : String) : Script :=
  .step (.set name (.int 1)) <|
  .step (.set "x" (.int 2)) <|
  .step (.keys " :id: " [.int 3, .int 4]) .done

/-- Colons that touch are removed with the blanks around them. -/
theorem sampleNames_trimmed :
    Settled " :: tag" ∧
    (∀ text ∈ (sampleNames " :: tag").givenNames, Settled text) ∧
    ∃ final, (sampleNames " :: tag").run { action := .update } = .ok final ∧
      final.NamesGiven (sampleNames " :: tag").givenNames ∧
      final.bindings.names = ["tag", "x", "id0", "id1"] ∧
      (∀ name ∈ final.bindings.names, Trimmed name ∧ bindingName name = name) := by
  have settled : ∀ text ∈ (sampleNames " :: tag").givenNames, Settled text := by decide
  have ran : ∃ final, (sampleNames " :: tag").run { action := .update } = .ok final ∧
      final.bindings.names = ["tag", "x", "id0", "id1"] := ⟨_, rfl, rfl⟩
  obtain ⟨final, ran, names⟩ := ran
  have given := Statement.NamesGiven.grown (.empty .update) ran
  rw [List.nil_append] at given
  obtain ⟨-, -, kept⟩ := binding_names_trimmed given
  exact ⟨by decide, settled, final, ran, given, names, (kept settled).1⟩

/-- A colon that is separated from another one by a blank stays in front of the name. The next time
that the name is brought into form the colon goes, so that reading the statement back takes two
bindings for one. -/
theorem colon_apart_stays :
    bindingName ": :x" = ":x" ∧ bindingName ":x" = "x" ∧ ¬Settled ": :x" ∧
    ∃ final again, (sampleNames ": :x").run { action := .update } = .ok final ∧
      final.bindings.names = [":x", "x", "id0", "id1"] ∧ ¬Trimmed ":x" ∧
      Statement.ofDescription? final.describe = some again ∧
      again.bindings.names = ["x", "id0", "id1"] := by
  have ran : ∃ final, (sampleNames ": :x").run { action := .update } = .ok final ∧
      final.bindings.names = [":x", "x", "id0", "id1"] ∧
      final.everyValue = [.int 1, .int 2, .int 3, .int 4] ∧
      (Statement.ofJson? final.toJson).map (·.bindings.names) = some ["x", "id0", "id1"] :=
    ⟨_, rfl, rfl, rfl, by decide +kernel⟩
  obtain ⟨final, ran, names, values, reads⟩ := ran
  obtain ⟨again, read, merged⟩ := Option.map_eq_some_iff.mp reads
  have writable : final.Writable := by
    refine Statement.writable_of_everyValue ?_
    rw [values]
    simp [Value.Writable]
  have described : Statement.ofDescription? final.describe = some again := by
    have parsed := (Statement.printable_toJson writable).ofText?_text
    rw [Statement.ofDescription?, Statement.describe, parsed]
    exact read
  exact ⟨by decide, by decide, by decide, final, again, ran, names, by decide, described, merged⟩

end Crud
