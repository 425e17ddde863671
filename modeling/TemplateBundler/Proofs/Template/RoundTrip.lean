import TemplateBundler.Proofs.Template.Fields

/-!
# RoundTrip: a tree read and written back

A serialized tree that has been read can be written back. What is written is the tidy form of what
was read: the declared fields of every node, construct and expression token stand first, those that
were null are left out, and all else is as it was. Reading what was written gives the same tree.

* `Role`, `Json.tidy`: the tidy form, without reading anything;
* `Token.ofJson?_eq_some_iff`, `Logic.ofJson?_eq_some_iff`: what the readers accept;
* `RoundTrips`: what can be written back and read again, whatever it was read from;
* `Token.treeInduction`: induction over nodes and their constructs;
* `Token.roundTrips`: every node can be written back;
* `Token.tree_roundTrip`: the same for a whole tree.
-/

namespace TemplateBundler

/-! ## The tidy form -/

/-- What a value stands for in a serialized tree. -/
inductive Role where
  | tree
  | node
  | construct
  | stack
  | term
  /-- Anything else, which is kept as it is. -/
  | plain

namespace Role

def declared : Role → List String
  | .node => ["type", "token"]
  | .construct => ["type", "output", "stack", "expression"]
  | .term => ["type"]
  | .tree | .stack | .plain => []

def ofField : Role → String → Role
  | .node, "token" => .construct
  | .construct, "output" => .tree
  | .construct, "stack" => .stack
  | _, _ => .plain

def ofItem : Role → Role
  | .tree => .node
  | .stack => .term
  | _ => .plain

theorem ofField_of_notMem {role : Role} {key : String} (h : key ∉ role.declared) :
    role.ofField key = .plain := by
  unfold ofField
  split
  · simp [declared] at h
  · simp [declared] at h
  · simp [declared] at h
  · rfl

end Role

/-- The declared fields in the order of their declaration, those that are null left out, and then
all other fields in the order in which they stand. -/
def Field.arrange (declared : List String) (fields : List (String × Json)) :
    List (String × Json) :=
  ((declared.flatMap fun key => fields.filter fun field => field.1 = key).filter fun field =>
    !field.2.isNull) ++ Entries.without declared fields

namespace Json

mutual

/-- The value with the fields of every node, construct and expression token arranged. -/
def tidy (role : Role) : Json → Json
  | .null => .null
  | .bool value => .bool value
  | .number value => .number value
  | .string value => .string value
  | .array items => .array (tidyItems role.ofItem items)
  | .object fields => .object (Field.arrange role.declared (tidyFields role fields))

def tidyItems (role : Role) : List Json → List Json
  | [] => []
  | item :: rest => item.tidy role :: tidyItems role rest

def tidyFields (role : Role) : List (String × Json) → List (String × Json)
  | [] => []
  | (key, value) :: rest => (key, value.tidy (role.ofField key)) :: tidyFields role rest

end

theorem tidyItems_eq_map (role : Role) (items : List Json) :
    tidyItems role items = items.map (tidy role) := by
  induction items with
  | nil => rfl
  | cons item rest ih => rw [tidyItems, ih, List.map_cons]

theorem tidyFields_eq_map (role : Role) (fields : List (String × Json)) :
    tidyFields role fields =
      fields.map fun field => (field.1, field.2.tidy (role.ofField field.1)) := by
  induction fields with
  | nil => rfl
  | cons field rest ih =>
    obtain ⟨key, value⟩ := field
    rw [tidyFields, ih, List.map_cons]

@[simp]
theorem isNull_tidy (role : Role) (value : Json) : (value.tidy role).isNull = value.isNull := by
  cases value <;> rfl

@[simp]
theorem tidy_plain (value : Json) : value.tidy .plain = value := by
  induction value using treeInduction with
  | null | bool value | number value | string value => rfl
  | array items ih =>
    have hitems : items.map (tidy .plain) = items :=
      (List.map_congr_left ih).trans (List.map_id' items)
    rw [tidy, tidyItems_eq_map, Role.ofItem, hitems]
    all_goals nofun
  | object fields ih =>
    have hfields : tidyFields .plain fields = fields := by
      rw [tidyFields_eq_map]
      refine (List.map_congr_left fun field hfield => ?_).trans (List.map_id' fields)
      exact congrArg (Prod.mk field.1) (ih field hfield)
    rw [tidy, hfields]
    simp [Field.arrange, Role.declared, Entries.without]

end Json

/-! ## The tidy form of an object, field by field -/

namespace Field

variable {role : Role} {key : String} {pairs : List (String × Json)}

/-- The fields that are not declared are those that a reader keeps. -/
theorem without_tidyFields (role : Role) (pairs : List (String × Json)) :
    Entries.without role.declared
        (Json.tidyFields role (Entries.ofPairs (Json.collapseFields pairs))) =
      others role.declared pairs := by
  rw [others_eq_without, Json.tidyFields_eq_map, Entries.without, List.filter_map]
  refine (List.map_congr_left fun field hfield => ?_).trans (List.map_id' _)
  have hkey : field.1 ∉ role.declared := by simpa using (List.mem_filter.1 hfield).2
  rw [Role.ofField_of_notMem hkey, Json.tidy_plain]

theorem filter_tidyFields (role : Role) (key : String) (fields : List (String × Json)) :
    ((Json.tidyFields role fields).filter fun field => field.1 = key) =
      (fields.filter fun field => field.1 = key).map fun field =>
        (field.1, field.2.tidy (role.ofField field.1)) := by
  rw [Json.tidyFields_eq_map, List.filter_map]
  rfl

/-- A declared field, not null, in its tidy form. -/
def tidied (role : Role) (pairs : List (String × Json)) (key : String) : List (String × Json) :=
  ((Json.tidyFields role (Entries.ofPairs (Json.collapseFields pairs))).filter fun field =>
    field.1 = key).filter fun field => !field.2.isNull

theorem tidy_collapse_object (role : Role) (pairs : List (String × Json)) :
    (Json.object pairs).collapse.tidy role =
      .object (role.declared.flatMap (tidied role pairs) ++ others role.declared pairs) := by
  rw [Json.collapse, Json.tidy, arrange, without_tidyFields, List.filter_flatMap]
  rfl

theorem tidied_eq_of_given {value? : Option Json} (h : given key pairs = value?.toList) :
    tidied role pairs key =
      (value?.toList.filter fun value => !value.isNull).map fun value =>
        (key, value.collapse.tidy (role.ofField key)) := by
  have hvalue : Entries.valueOf? key (Entries.ofPairs (Json.collapseFields pairs)) =
      value?.map Json.collapse := by
    rw [Entries.valueOf?_ofPairs]
    show (given key (Json.collapseFields pairs)).getLast? = _
    rw [given_collapseFields, h]
    cases value? <;> rfl
  have hnodup := Entries.nodup_keys_ofPairs (Json.collapseFields pairs)
  rw [tidied, filter_tidyFields, Entries.filter_key_of_nodup hnodup, hvalue]
  cases value? with
  | none => rfl
  | some value => cases hnull : value.isNull <;> simp [hnull]

theorem tidied_eq_of_optional? {value? : Option Json} (h : optional? key pairs = some value?) :
    tidied role pairs key =
      Logic.present key (value?.map fun value => value.collapse.tidy (role.ofField key)) := by
  rcases optional?_eq_some_iff.1 h with ⟨hgiven, rfl⟩ | ⟨hgiven, rfl⟩ | ⟨value, hgiven, hnull, rfl⟩
  · have hlist : given key pairs = (none : Option Json).toList := hgiven
    rw [tidied_eq_of_given hlist]
    rfl
  · have hlist : given key pairs = (some Json.null).toList := hgiven
    rw [tidied_eq_of_given hlist]
    rfl
  · have hlist : given key pairs = (some value).toList := hgiven
    rw [tidied_eq_of_given hlist]
    simp [hnull, Logic.present]

theorem tidied_eq_of_text? {text : String} (h : text? key pairs = some text) :
    tidied role pairs key = Logic.present key (some (.string text)) := by
  have hlist : given key pairs = (some (Json.string text)).toList := text?_eq_some_iff.1 h
  rw [tidied_eq_of_given hlist]
  rfl

/-- An object whose declared fields are known, one by one, in its tidy form. -/
theorem tidy_collapse_row {front : List (String × Option Json)}
    (hfront : front.map Prod.fst = role.declared)
    (h : ∀ field ∈ front, tidied role pairs field.1 = Logic.present field.1 field.2) :
    (Json.object pairs).collapse.tidy role = .object (row front (others role.declared pairs)) := by
  have hdeclared : role.declared.flatMap (tidied role pairs) =
      front.flatMap fun field => Logic.present field.1 field.2 := by
    rw [← hfront, List.flatMap_map]
    exact List.flatMap_congr h
  rw [tidy_collapse_object, hdeclared, row]

end Field

/-! ## What the readers accept -/

theorem ExprToken.ofJson?_eq_some_iff {json : Json} {token : ExprToken} :
    ExprToken.ofJson? json = some token ↔
      ∃ pairs name, json = .object pairs ∧ Field.text? "type" pairs = some name ∧
        token = ⟨.ofName name, Field.others ["type"] pairs⟩ := by
  cases json with
  | object pairs =>
    rw [ExprToken.ofJson?, Option.map_eq_some_iff]
    constructor
    · rintro ⟨name, hname, rfl⟩
      exact ⟨pairs, name, rfl, hname, rfl⟩
    · rintro ⟨_, name, ⟨⟩, hname, rfl⟩
      exact ⟨name, hname, rfl⟩
  | null | bool value | number value | string value | array items => simp [ExprToken.ofJson?]

theorem ExprToken.mapM_ofJson?_eq_some_iff {items : List Json} {stack : List ExprToken} :
    items.mapM ExprToken.ofJson? = some stack ↔
      List.Forall₂ (fun item token => ExprToken.ofJson? item = some token) items stack := by
  induction items generalizing stack with
  | nil => simp [eq_comm]
  | cons item rest ih =>
    rw [List.mapM_cons, List.forall₂_cons_left_iff]
    simp only [bind, Option.bind_eq_some_iff, pure, Option.some.injEq, ih]
    constructor
    · rintro ⟨token, htoken, more, hmore, rfl⟩
      exact ⟨token, more, htoken, hmore, rfl⟩
    · rintro ⟨token, more, htoken, hmore, rfl⟩
      exact ⟨token, htoken, more, hmore, rfl⟩

theorem ExprToken.stackOfJson?_eq_some_iff {json : Json} {stack : List ExprToken} :
    ExprToken.stackOfJson? json = some stack ↔
      ∃ items, json = .array items ∧
        List.Forall₂ (fun item token => ExprToken.ofJson? item = some token) items stack := by
  cases json with
  | array items => simp [ExprToken.stackOfJson?, ExprToken.mapM_ofJson?_eq_some_iff]
  | null | bool value | number value | string value | object pairs =>
    simp [ExprToken.stackOfJson?]

theorem Token.itemsOfJson?_eq_some_iff {items : List Json} {tokens : List Token} :
    Token.itemsOfJson? items = some tokens ↔
      List.Forall₂ (fun item token => Token.ofJson? item = some token) items tokens := by
  induction items generalizing tokens with
  | nil => simp [Token.itemsOfJson?, eq_comm]
  | cons item rest ih =>
    rw [Token.itemsOfJson?, List.forall₂_cons_left_iff]
    cases Token.ofJson? item with
    | none => simp
    | some token =>
      simp only [Option.map_eq_some_iff, ih, Option.some.injEq]
      constructor
      · rintro ⟨more, hmore, rfl⟩
        exact ⟨token, more, rfl, hmore, rfl⟩
      · rintro ⟨_, more, rfl, hmore, rfl⟩
        exact ⟨more, hmore, rfl⟩

theorem Token.listOfJson?_eq_some_iff {json : Json} {tokens : List Token} :
    Token.listOfJson? json = some tokens ↔
      ∃ items, json = .array items ∧
        List.Forall₂ (fun item token => Token.ofJson? item = some token) items tokens := by
  cases json with
  | array items => simp [Token.listOfJson?, Token.itemsOfJson?_eq_some_iff]
  | null | bool value | number value | string value | object pairs => simp [Token.listOfJson?]

theorem optionMapM_eq_some_iff {α β : Type} {f : α → Option β} {x : Option α} {y : Option β} :
    x.mapM f = some y ↔ Option.Rel (fun a b => f a = some b) x y := by
  cases x with
  | none =>
    constructor
    · rintro ⟨⟩
      exact .none
    · rintro ⟨⟩
      rfl
  | some a =>
    rw [Option.mapM_some, Option.map_eq_map, Option.map_eq_some_iff]
    constructor
    · rintro ⟨b, hb, rfl⟩
      exact .some hb
    · rintro (hb | _)
      exact ⟨_, hb, rfl⟩

theorem Token.ofJson?_object (pairs : List (String × Json)) :
    Token.ofJson? (.object pairs) =
      (Field.text? "type" pairs).bind fun name =>
        (Field.optional? "token" pairs).bind fun value? =>
          (value?.mapM Logic.ofJson?).map fun logic =>
            ⟨.ofName name, logic, Field.others ["type", "token"] pairs⟩ := by
  rw [Token.ofJson?]
  cases Field.text? "type" pairs with
  | none => rfl
  | some name =>
    dsimp only
    split <;> rename_i hvalue <;> rw [hvalue]
    · rfl
    · rfl
    · rw [Option.bind_some, Option.bind_some, Option.mapM_some, Option.map_eq_map, Option.map_map]
      rfl

theorem Logic.ofJson?_object (pairs : List (String × Json)) :
    Logic.ofJson? (.object pairs) =
      (Field.text? "type" pairs).bind fun name =>
        (Field.optional? "stack" pairs).bind fun stack? =>
          (Field.optional? "expression" pairs).bind fun expression? =>
            (stack?.mapM ExprToken.stackOfJson?).bind fun stack =>
              (Field.optional? "output" pairs).bind fun body? =>
                (body?.mapM Token.listOfJson?).map fun body =>
                  { kind := .ofName name
                    body := body
                    stack := stack
                    expression := expression?.map Json.collapse
                    fields := Field.others ["type", "output", "stack", "expression"] pairs } := by
  rw [Logic.ofJson?]
  cases Field.text? "type" pairs with
  | none => rfl
  | some name =>
    cases Field.optional? "stack" pairs with
    | none => rfl
    | some stack? =>
      cases Field.optional? "expression" pairs with
      | none => rfl
      | some expression? =>
        simp only [Option.bind_some]
        cases stack?.mapM ExprToken.stackOfJson? with
        | none => rfl
        | some stack =>
          dsimp only
          split <;> rename_i hbody <;> rw [hbody]
          · rfl
          · rfl
          · rw [Option.bind_some, Option.bind_some, Option.mapM_some, Option.map_eq_map,
              Option.map_map]
            rfl

theorem Token.ofJson?_eq_some_iff {json : Json} {token : Token} :
    Token.ofJson? json = some token ↔
      ∃ pairs name value?, json = .object pairs ∧ Field.text? "type" pairs = some name ∧
        Field.optional? "token" pairs = some value? ∧ token.kind = .ofName name ∧
        Option.Rel (fun value logic => Logic.ofJson? value = some logic) value? token.logic ∧
        token.fields = Field.others ["type", "token"] pairs := by
  obtain ⟨kind, logic, fields⟩ := token
  cases json with
  | object pairs =>
    simp only [Token.ofJson?_object, Option.bind_eq_some_iff, Option.map_eq_some_iff,
      optionMapM_eq_some_iff]
    constructor
    · rintro ⟨name, hname, value?, hvalue, logic, hlogic, ⟨⟩⟩
      exact ⟨pairs, name, value?, rfl, hname, hvalue, rfl, hlogic, rfl⟩
    · rintro ⟨_, name, value?, ⟨⟩, hname, hvalue, rfl, hlogic, rfl⟩
      exact ⟨name, hname, value?, hvalue, logic, hlogic, rfl⟩
  | null | bool value | number value | string value | array items => simp [Token.ofJson?]

theorem Logic.ofJson?_eq_some_iff {json : Json} {logic : Logic} :
    Logic.ofJson? json = some logic ↔
      ∃ pairs name body? stack? expression?, json = .object pairs ∧
        Field.text? "type" pairs = some name ∧ Field.optional? "output" pairs = some body? ∧
        Field.optional? "stack" pairs = some stack? ∧
        Field.optional? "expression" pairs = some expression? ∧ logic.kind = .ofName name ∧
        Option.Rel (fun value body => Token.listOfJson? value = some body) body? logic.body ∧
        Option.Rel (fun value stack => ExprToken.stackOfJson? value = some stack)
          stack? logic.stack ∧
        logic.expression = expression?.map Json.collapse ∧
        logic.fields = Field.others ["type", "output", "stack", "expression"] pairs := by
  obtain ⟨kind, body, stack, expression, fields⟩ := logic
  cases json with
  | object pairs =>
    simp only [Logic.ofJson?_object, Option.bind_eq_some_iff, Option.map_eq_some_iff,
      optionMapM_eq_some_iff]
    constructor
    · rintro ⟨name, hname, stack?, hstack?, expression?, hexpression?, stack, hstack, body?, hbody?,
        body, hbody, ⟨⟩⟩
      exact ⟨pairs, name, body?, stack?, expression?, rfl, hname, hbody?, hstack?, hexpression?,
        rfl, hbody, hstack, rfl, rfl⟩
    · rintro ⟨_, name, body?, stack?, expression?, ⟨⟩, hname, hbody?, hstack?, hexpression?, rfl,
        hbody, hstack, rfl, rfl⟩
      exact ⟨name, hname, stack?, hstack?, expression?, hexpression?, stack, hstack, body?, hbody?,
        body, hbody, rfl⟩
  | null | bool value | number value | string value | array items => simp [Logic.ofJson?]

/-! ## What is written -/

theorem Token.listToJson_eq_map (tokens : List Token) :
    Token.listToJson tokens = tokens.map Token.toJson := by
  induction tokens with
  | nil => rfl
  | cons token rest ih => rw [Token.listToJson, ih, List.map_cons]

theorem Token.toJson_eq (token : Token) :
    token.toJson = .object (Entries.ofPairs (Field.row
      [("type", some (.string token.kind.name)), ("token", token.logic.map Logic.toJson)]
      token.fields)) := by
  obtain ⟨kind, logic, fields⟩ := token
  cases logic <;> rfl

theorem Logic.toJson_eq (logic : Logic) :
    logic.toJson = .object (Entries.ofPairs (Field.row
      [("type", some (.string logic.kind.name)),
        ("output", logic.body.map fun body => .array (body.map Token.toJson)),
        ("stack", logic.stack.map fun stack => .array (stack.map ExprToken.toJson)),
        ("expression", logic.expression)]
      logic.fields)) := by
  obtain ⟨kind, body, stack, expression, fields⟩ := logic
  cases body with
  | none => simp [Logic.toJson, Field.row, Logic.present]
  | some body => simp [Logic.toJson, Field.row, Logic.present, Token.listToJson_eq_map]

/-! ## Parts that can be written back -/

/-- Whatever it was read from, it is written in the tidy form of that, and read from there again. -/
def RoundTrips {α : Type} (read : Json → Option α) (write : α → Json) (role : Role) (x : α) :
    Prop :=
  ∀ json, read json = some x → write x = json.collapse.tidy role ∧ read (write x) = some x

namespace RoundTrips

variable {α : Type} {read : Json → Option α} {write : α → Json} {role : Role}

theorem items {items : List Json} {xs : List α}
    (h : List.Forall₂ (fun item x => read item = some x) items xs)
    (hxs : ∀ x ∈ xs, RoundTrips read write role x) :
    xs.map write = items.map (fun item => item.collapse.tidy role) ∧
      List.Forall₂ (fun item x => read item = some x) (xs.map write) xs := by
  induction h with
  | nil => exact ⟨rfl, .nil⟩
  | @cons item x items xs hitem _ ih =>
    rw [List.forall_mem_cons] at hxs
    obtain ⟨hwrite, hread⟩ := hxs.1 item hitem
    obtain ⟨hwrites, hreads⟩ := ih hxs.2
    refine ⟨?_, .cons hread hreads⟩
    rw [List.map_cons, List.map_cons, hwrite, hwrites]

theorem array {readAll : Json → Option (List α)}
    (hreadAll : ∀ {json : Json} {xs : List α}, readAll json = some xs ↔
      ∃ items, json = .array items ∧ List.Forall₂ (fun item x => read item = some x) items xs)
    {xs : List α} (hxs : ∀ x ∈ xs, RoundTrips read write role.ofItem x) :
    RoundTrips readAll (fun xs => .array (xs.map write)) role xs := by
  intro json h
  obtain ⟨items, rfl, hall⟩ := hreadAll.1 h
  obtain ⟨hwrite, hread⟩ := RoundTrips.items hall hxs
  refine ⟨?_, hreadAll.2 ⟨_, rfl, hread⟩⟩
  dsimp only
  rw [hwrite, Json.collapse, Json.tidy, Json.collapseItems_eq_map, Json.tidyItems_eq_map,
    List.map_map]
  rfl

theorem optional {value? : Option Json} {x? : Option α}
    (h : Option.Rel (fun value x => read value = some x) value? x?)
    (hnull : ∀ value ∈ value?, value.isNull = false)
    (hx : ∀ x ∈ x?, RoundTrips read write role x) :
    x?.map write = value?.map (fun value => value.collapse.tidy role) ∧
      Option.Rel (fun value x => read value = some x) (x?.map write) x? ∧
      ∀ value ∈ x?.map write, value.isNull = false := by
  cases h with
  | none => exact ⟨rfl, .none, nofun⟩
  | @some value x hvalue =>
    obtain ⟨hwrite, hread⟩ := hx x rfl value hvalue
    refine ⟨congrArg some hwrite, .some hread, ?_⟩
    intro written hwritten
    cases hwritten
    rw [hwrite, Json.isNull_tidy, Json.isNull_collapse]
    exact hnull value rfl

end RoundTrips

/-! ## Expression tokens -/

namespace ExprToken

theorem toJson_eq (token : ExprToken) :
    token.toJson = .object (Entries.ofPairs
      (Field.row [("type", some (.string token.kind.name))] token.fields)) := rfl

theorem roundTrips (token : ExprToken) : RoundTrips ofJson? toJson .term token := by
  intro json h
  obtain ⟨pairs, name, rfl, hname, rfl⟩ := ofJson?_eq_some_iff.1 h
  have hwritten := toJson_eq ⟨.ofName name, Field.others ["type"] pairs⟩
  have hfront : [("type", some (Json.string name))].map Prod.fst = ["type"] := rfl
  rw [ExprKind.name_ofName, Field.ofPairs_row hfront (by decide)] at hwritten
  rw [hwritten]
  constructor
  · symm
    refine Field.tidy_collapse_row hfront ?_
    rw [List.forall_mem_singleton]
    exact Field.tidied_eq_of_text? hname
  · rw [ofJson?_eq_some_iff]
    refine ⟨_, name, rfl, Field.text?_row hfront (by decide) (by simp) pairs, ?_⟩
    rw [Field.others_row hfront]

theorem stack_roundTrips (stack : List ExprToken) :
    RoundTrips stackOfJson? (fun stack => .array (stack.map toJson)) .stack stack :=
  RoundTrips.array stackOfJson?_eq_some_iff fun token _ => token.roundTrips

end ExprToken

/-! ## Trees -/

section Induction

variable {P : Token → Prop} {Q : Logic → Prop}

mutual

/-- A property of nodes holds of all of them if it passes from the construct of a node to the node,
and from the children of a construct to the construct. -/
theorem Token.treeInduction (node : ∀ token : Token, (∀ logic ∈ token.logic, Q logic) → P token)
    (construct : ∀ logic : Logic, (∀ body ∈ logic.body, ∀ child ∈ body, P child) → Q logic) :
    ∀ token, P token
  | ⟨_, none, _⟩ => node _ nofun
  | ⟨_, some logic, _⟩ => node _ fun _ h => by
    cases h
    exact Logic.treeInduction node construct logic

theorem Logic.treeInduction (node : ∀ token : Token, (∀ logic ∈ token.logic, Q logic) → P token)
    (construct : ∀ logic : Logic, (∀ body ∈ logic.body, ∀ child ∈ body, P child) → Q logic) :
    ∀ logic, Q logic
  | ⟨_, none, _, _, _⟩ => construct _ nofun
  | ⟨_, some body, _, _, _⟩ => construct _ fun _ h => by
    cases h
    exact Token.listInduction node construct body

theorem Token.listInduction (node : ∀ token : Token, (∀ logic ∈ token.logic, Q logic) → P token)
    (construct : ∀ logic : Logic, (∀ body ∈ logic.body, ∀ child ∈ body, P child) → Q logic) :
    ∀ tokens : List Token, ∀ token ∈ tokens, P token
  | [] => nofun
  | token :: rest => List.forall_mem_cons.2
    ⟨Token.treeInduction node construct token, Token.listInduction node construct rest⟩

end

end Induction

theorem Token.list_roundTrips {tokens : List Token}
    (h : ∀ token ∈ tokens, RoundTrips Token.ofJson? Token.toJson .node token) :
    RoundTrips Token.listOfJson? (fun tokens => .array (tokens.map Token.toJson)) .tree tokens :=
  RoundTrips.array Token.listOfJson?_eq_some_iff h

/-- A node whose construct can be written back can be written back. -/
theorem Token.roundTrips_of_logic {token : Token}
    (hlogic : ∀ logic ∈ token.logic, RoundTrips Logic.ofJson? Logic.toJson .construct logic) :
    RoundTrips Token.ofJson? Token.toJson .node token := by
  intro json h
  obtain ⟨pairs, name, value?, rfl, hname, hvalue, hkind, hrel, hfields⟩ :=
    Token.ofJson?_eq_some_iff.1 h
  obtain ⟨hwrite, hread, hnull⟩ :=
    RoundTrips.optional hrel (Field.isNull_of_optional? hvalue) hlogic
  have hwritten := Token.toJson_eq token
  have hfront : [("type", some (Json.string name)), ("token", token.logic.map Logic.toJson)].map
      Prod.fst = ["type", "token"] := rfl
  rw [hkind, TokenKind.name_ofName, hfields, Field.ofPairs_row hfront (by decide)] at hwritten
  rw [hwritten]
  constructor
  · symm
    refine Field.tidy_collapse_row hfront ?_
    rw [hwrite]
    simp only [List.forall_mem_cons]
    exact ⟨Field.tidied_eq_of_text? hname, Field.tidied_eq_of_optional? hvalue, nofun⟩
  · rw [Token.ofJson?_eq_some_iff]
    refine ⟨_, name, _, rfl, Field.text?_row hfront (by decide) (by simp) pairs,
      Field.optional?_row hfront (by decide) (by simp) hnull pairs, hkind, hread, ?_⟩
    rw [hfields, Field.others_row hfront]

theorem Logic.roundTrips_of_body {logic : Logic}
    (hchildren : ∀ body ∈ logic.body, ∀ child ∈ body,
      RoundTrips Token.ofJson? Token.toJson .node child) :
    RoundTrips Logic.ofJson? Logic.toJson .construct logic := by
  intro json h
  obtain ⟨pairs, name, body?, stack?, expression?, rfl, hname, hbody?, hstack?, hexpression?, hkind,
    hbody, hstack, hexpression, hfields⟩ := Logic.ofJson?_eq_some_iff.1 h
  obtain ⟨hwriteBody, hreadBody, hnullBody⟩ :=
    RoundTrips.optional hbody (Field.isNull_of_optional? hbody?) fun body hmem =>
      Token.list_roundTrips (hchildren body hmem)
  obtain ⟨hwriteStack, hreadStack, hnullStack⟩ :=
    RoundTrips.optional hstack (Field.isNull_of_optional? hstack?) fun stack _ =>
      ExprToken.stack_roundTrips stack
  have hnullExpression : ∀ value ∈ logic.expression, value.isNull = false := by
    rw [hexpression]
    intro value hvalue
    obtain ⟨given, hgiven, rfl⟩ := Option.map_eq_some_iff.1 hvalue
    rw [Json.isNull_collapse]
    exact Field.isNull_of_optional? hexpression? given hgiven
  have hwritten := Logic.toJson_eq logic
  have hfront : [("type", some (Json.string name)),
      ("output", logic.body.map fun body => .array (body.map Token.toJson)),
      ("stack", logic.stack.map fun stack => .array (stack.map ExprToken.toJson)),
      ("expression", logic.expression)].map Prod.fst =
        ["type", "output", "stack", "expression"] := rfl
  rw [hkind, LogicKind.name_ofName, hfields, Field.ofPairs_row hfront (by decide)] at hwritten
  rw [hwritten]
  constructor
  · symm
    refine Field.tidy_collapse_row hfront ?_
    rw [hwriteBody, hwriteStack, hexpression]
    simp only [List.forall_mem_cons]
    refine ⟨Field.tidied_eq_of_text? hname, Field.tidied_eq_of_optional? hbody?,
      Field.tidied_eq_of_optional? hstack?, ?_, nofun⟩
    rw [Field.tidied_eq_of_optional? hexpression?]
    simp [Role.ofField]
  · rw [Logic.ofJson?_eq_some_iff]
    refine ⟨_, name, _, _, _, rfl, Field.text?_row hfront (by decide) (by simp) pairs,
      Field.optional?_row hfront (by decide) (by simp) hnullBody pairs,
      Field.optional?_row hfront (by decide) (by simp) hnullStack pairs,
      Field.optional?_row hfront (by decide) (by simp) hnullExpression pairs, hkind,
      hreadBody, hreadStack, ?_, ?_⟩
    · rw [hexpression]
      cases expression? <;> simp
    · rw [hfields, Field.others_row hfront]

theorem Token.roundTrips (token : Token) : RoundTrips Token.ofJson? Token.toJson .node token :=
  Token.treeInduction (fun _ => Token.roundTrips_of_logic) (fun _ => Logic.roundTrips_of_body) token

namespace Token

/-- **A tree that has been read is written back without loss.** What is written is what was read,
with the declared fields first and those that were null left out; a repeated key has its last value
in its first place. It is read as the same tree, and so it is written back as it stands. -/
theorem tree_roundTrip {json : Json} {tokens : List Token}
    (h : Token.listOfJson? json = some tokens) :
    Json.array (Token.listToJson tokens) = json.collapse.tidy .tree ∧
    (json.KeysOnce → Json.array (Token.listToJson tokens) = json.tidy .tree) ∧
    Token.listOfJson? (.array (Token.listToJson tokens)) = some tokens ∧
    (Token.listOfJson? (.array (Token.listToJson tokens))).map (fun again =>
      Json.array (Token.listToJson again)) = some (.array (Token.listToJson tokens)) := by
  have hround := Token.list_roundTrips (fun token _ => token.roundTrips) json h
  simp only [← Token.listToJson_eq_map] at hround
  obtain ⟨hwrite, hread⟩ := hround
  refine ⟨hwrite, fun honce => ?_, hread, ?_⟩
  · rw [hwrite, Json.collapse_of_keysOnce honce]
  · rw [hread]
    rfl

/-! ### A tree with fields out of order

A raw node with a null construct, and a construct of an unknown kind with a null stack, a key given
twice, and its `type` behind other fields. -/

def untidyTree : Json :=
  .array [
    .object [("value", .string "<p>"), ("type", .string "raw"), ("token", .null)],
    .object [
      ("token", .object [("only", .bool false), ("stack", .null),
        ("output", .array [.object [("match", .null), ("type", .string "custom")]]),
        ("type", .string "Twig.logic.type.sandbox"), ("only", .bool true)]),
      ("type", .string "logic")]]

def untidyTokens : List Token :=
  [⟨.raw, none, [("value", .string "<p>")]⟩,
    ⟨.logic, some
      { kind := .other "Twig.logic.type.sandbox"
        body := some [⟨.other "custom", none, [("match", .null)]⟩]
        stack := none
        expression := none
        fields := [("only", .bool true)] }, []⟩]

def tidyTree : Json :=
  .array [
    .object [("type", .string "raw"), ("value", .string "<p>")],
    .object [
      ("type", .string "logic"),
      ("token", .object [("type", .string "Twig.logic.type.sandbox"),
        ("output", .array [.object [("type", .string "custom"), ("match", .null)]]),
        ("only", .bool true)])]]

theorem listOfJson?_untidyTree : Token.listOfJson? untidyTree = some untidyTokens := by
  simp [untidyTree, untidyTokens, Token.listOfJson?, Token.itemsOfJson?, Token.ofJson?_object,
    Logic.ofJson?_object, Field.text?, Field.optional?, Field.given, Field.others, Entries.without,
    Entries.ofPairs, Entries.put, Json.collapseFields, Json.collapse, Json.asString?, Json.isNull,
    TokenKind.ofName, LogicKind.ofName]

theorem tree_roundTrip_untidyTree :
    Token.listOfJson? untidyTree = some untidyTokens ∧
    Json.array (Token.listToJson untidyTokens) = tidyTree ∧
    untidyTree.collapse.tidy .tree = tidyTree ∧
    Token.listOfJson? tidyTree = some untidyTokens := by
  have hwritten : Json.array (Token.listToJson untidyTokens) = tidyTree := rfl
  obtain ⟨htidy, -, hread, -⟩ := tree_roundTrip listOfJson?_untidyTree
  rw [hwritten] at htidy hread
  exact ⟨listOfJson?_untidyTree, hwritten, htidy.symm, hread⟩

end Token

end TemplateBundler
