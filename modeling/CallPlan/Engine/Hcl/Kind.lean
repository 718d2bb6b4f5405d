import CallPlan.Data.Entries

/-!
The types of HCL values, which types convert to which, and the type that several types have in common.
A tuple or an object has a type for each of its parts; a list or a map has one for all of them.
-/

namespace CallPlan.Hcl

inductive Kind where
  /-- A type that is not known. -/
  | dynamic
  | bool
  | number
  | text
  | list (element : Kind)
  | map (element : Kind)
  | tuple (elements : List Kind)
  | object (attributes : List (Text × Kind))
deriving Repr, Inhabited, BEq

namespace Kind

def isDynamic : Kind → Bool
  | .dynamic => true
  | _ => false

def isTuple : Kind → Bool
  | .tuple _ => true
  | _ => false

def isObject : Kind → Bool
  | .object _ => true
  | _ => false

/-- The type of the elements of a list. -/
def listElement? : Kind → Option Kind
  | .list element => some element
  | _ => none

/-- The type of the values of a map. -/
def mapElement? : Kind → Option Kind
  | .map element => some element
  | _ => none

/-- The types of the parts of a tuple or an object. -/
def parts : Kind → List Kind
  | .tuple elements => elements
  | .object attributes => attributes.map (·.2)
  | _ => []

mutual

/-- The number of type constructors, which bounds the depth of a type. -/
def size : Kind → Nat
  | .dynamic | .bool | .number | .text => 1
  | .list element | .map element => element.size + 1
  | .tuple elements => sizeAll elements + 1
  | .object attributes => sizeAttributes attributes + 1

def sizeAll : List Kind → Nat
  | [] => 0
  | kind :: rest => kind.size + sizeAll rest

def sizeAttributes : List (Text × Kind) → Nat
  | [] => 0
  | (_, kind) :: rest => kind.size + sizeAttributes rest

end

/-- Of several types the ones that others convert to are preferred: texts to other simple types,
lists and maps to tuples and objects, and any type to an unknown one. -/
def rank : Kind → Nat
  | .text | .list _ | .map _ => 0
  | .dynamic => 2
  | _ => 1

def preferred (kinds : List Kind) : List Kind :=
  kinds.filter (·.rank = 0) ++ kinds.filter (·.rank = 1) ++ kinds.filter (·.rank = 2)

def sameNames (attributes others : List (Text × Kind)) : Bool :=
  attributes.length = others.length && attributes.all fun (name, _) => Entries.has others name

mutual

/-- Whether values of a type can be converted to another, or at least some of them. -/
def converts : Nat → Kind → Kind → Bool
  | 0, source, target => source == target
  | fuel + 1, source, target =>
      source == target ||
      match source, target with
      | _, .dynamic | .dynamic, _ => true
      | .number, .text | .bool, .text | .text, .number | .text, .bool => true
      | .list a, .list b | .map a, .map b => converts fuel a b
      | .tuple elements, .list .dynamic => elements.isEmpty || (common? fuel elements).isSome
      | .tuple elements, .list b => elements.all (converts fuel · b)
      | .tuple elements, .tuple others =>
          elements.length = others.length &&
            (elements.zip others).all fun (a, b) => converts fuel a b
      | .object attributes, .map .dynamic =>
          attributes.isEmpty || (common? fuel (attributes.map (·.2))).isSome
      | .object attributes, .map b => attributes.all fun (_, a) => converts fuel a b
      | .object attributes, .object others =>
          others.all fun (name, b) => (Entries.get? attributes name).any (converts fuel · b)
      | .map a, .object others => others.all fun (_, b) => converts fuel a b
      | _, _ => false

/-- The type that values of all the types can be brought to, if there is one. -/
def common? : Nat → List Kind → Option Kind
  | 0, _ => none
  | fuel + 1, kinds =>
      let unknown := kinds.any isDynamic
      let lists := kinds.filterMap listElement?
      let maps := kinds.filterMap mapElement?
      let tuples := kinds.filter isTuple
      let objects := kinds.filter isObject
      let known := (kinds.filter fun kind => !kind.isDynamic).length
      let first? : Option Kind := (preferred kinds).find? fun target =>
        kinds.all (converts fuel · target)
      if kinds.isEmpty then none
      else if known = 0 then some .dynamic
      else if lists.length = known then
        if unknown then some .dynamic else (common? fuel lists).map .list
      else if maps.length = known then
        if unknown then some .dynamic else (common? fuel maps).map .map
      else if tuples.length = known then
        if unknown then some .dynamic else commonTuple? fuel tuples
      else if objects.length = known then
        if unknown then some .dynamic else commonObject? fuel objects
      else if !lists.isEmpty && lists.length + tuples.length = known && !unknown then
        match common? fuel (tuples.flatMap parts) with
        | some element => (common? fuel (lists ++ [element])).map .list <|> first?
        | none => first?
      else if !maps.isEmpty && maps.length + objects.length = known && !unknown then
        match common? fuel (objects.flatMap parts) with
        | some element => (common? fuel (maps ++ [element])).map .map <|> first?
        | none => first?
      else first?

/-- Tuples of one length have a tuple in common, part by part; others only a list. -/
def commonTuple? : Nat → List Kind → Option Kind
  | 0, _ => none
  | fuel + 1, kinds =>
      let rows := kinds.map parts
      let width := (rows.head?.getD []).length
      if rows.all (·.length = width) then
        let columns := (List.range width).map fun i => rows.filterMap (·[i]?)
        (columns.mapM (common? fuel)).map .tuple
      else (common? fuel rows.flatten).map .list

/-- Objects with the same attributes have an object in common; others only a map. -/
def commonObject? : Nat → List Kind → Option Kind
  | 0, _ => none
  | fuel + 1, kinds =>
      let rows : List (List (Text × Kind)) := kinds.filterMap fun
        | .object attributes => some attributes
        | _ => none
      let first := rows.head?.getD []
      if rows.all (sameNames first) then
        (first.mapM fun (member : Text × Kind) =>
          (common? fuel (rows.filterMap (Entries.get? · member.1))).map fun kind =>
            (member.1, kind)).map .object
      else (common? fuel (kinds.flatMap parts)).map .map

end

/-- Enough steps for any types of these sizes. -/
def steps (kinds : List Kind) : Nat := 4 * sizeAll kinds + 4

def canConvert (source target : Kind) : Bool := converts (steps [source, target]) source target

/-- The type that values of all the types can be brought to, if there is one. -/
def unify? (kinds : List Kind) : Option Kind := common? (steps kinds) kinds

/-- Whether bringing values of these types together loses them: a collection and a value of a type
that is not known have no type in common that could be told yet. -/
def isObscure (kinds : List Kind) : Bool :=
  let known := kinds.filter fun kind => !kind.isDynamic
  known.length < kinds.length && !known.isEmpty &&
    (known.all isTuple || known.all isObject || known.all (·.listElement?.isSome) ||
      known.all (·.mapElement?.isSome))

end Kind
end CallPlan.Hcl
