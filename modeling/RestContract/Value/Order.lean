import RestContract.Value.Basic

/-!
# The order of values

Numbers are compared by what they stand for, texts and bytes by their characters, dates
and moments by their time, where two moments have an order when both or neither have a
known offset. Lists are compared by the first items that differ. Values of different sorts
have no order at all, and what is no number stands neither before nor behind a number.
-/

namespace RestContract

/-- How one value stands to another one. -/
inductive Relation where
  /-- It stands before the other one. -/
  | before
  /-- They are equal. -/
  | equal
  /-- It stands behind the other one. -/
  | behind
  /-- None of these. -/
  | apart
  deriving DecidableEq, Repr

/-- The relation that an ordering says. -/
def Relation.ofOrdering : Ordering → Relation
  | .lt => .before
  | .eq => .equal
  | .gt => .behind

/-- The relation as the other value has it. -/
def Relation.flip : Relation → Relation
  | .before => .behind
  | .behind => .before
  | r => r

namespace Value

/-- How two floating-point numbers stand to one another. -/
def relateFloats (x y : Float) : Relation :=
  if x < y then .before else if x == y then .equal else if y < x then .behind else .apart

/-- How a whole number stands to a floating-point number. -/
def relateWhole (n : Int) (x : Float) : Relation :=
  match Number.wholeOfFloat? x.floor with
  | none => relateFloats 0.0 x
  | some m =>
    if n < m then .before else if m < n then .behind else if x.floor < x then .before else .equal

/-- The whole number that a value is, where truth values count as zero and one. -/
def asWhole? : Value → Option Int
  | .int n => some n
  | .bool b => some (if b then 1 else 0)
  | _ => none

/-- How two values that are no lists stand to one another, if they have an order. -/
def relateSingle? (a b : Value) : Option Relation :=
  match a.asWhole?, b.asWhole? with
  | some m, some n => some (.ofOrdering (compare m n))
  | some m, none =>
    match b with
    | .float y => some (relateWhole m y)
    | _ => none
  | none, some n =>
    match a with
    | .float x => some (relateWhole n x).flip
    | _ => none
  | none, none =>
    match a, b with
    | .float x, .float y => some (relateFloats x y)
    | .bytes x, .bytes y => some (.ofOrdering (compare x y))
    | .date d, .date e => some (.ofOrdering (compare d.dayNumber e.dayNumber))
    | .moment t, .moment u =>
      if t.offset.isSome = u.offset.isSome then some (.ofOrdering (compare t.instant u.instant))
      else none
    | a, b =>
      match a.asText?, b.asText? with
      | some s, some t => some (.ofOrdering (compare s t))
      | _, _ => none

mutual

/-- How two values stand to one another, if they have an order. -/
def relate? : Value → Value → Option Relation
  | .list as, b =>
    match b with
    | .list bs => relateItems? as bs
    | _ => none
  | a, b => relateSingle? a b

/-- How the items of two lists stand to one another, if the first ones that differ have an order. -/
def relateItems? : List Value → List Value → Option Relation
  | [], [] => some .equal
  | [], _ :: _ => some .before
  | _ :: _, [] => some .behind
  | a :: as, b :: bs =>
    if a.sameKey b then relateItems? as bs
    else match relate? a b with
      | some .equal => relateItems? as bs
      | r => r

end

/-- The least of a value and others, none when two of them have no order. -/
def leastFrom? (a : Value) : List Value → Option Value
  | [] => some a
  | b :: rest =>
    match relate? b a with
    | none => none
    | some .before => leastFrom? b rest
    | some _ => leastFrom? a rest

end Value

end RestContract
