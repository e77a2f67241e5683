import FilterQuery.Builder
/-!
# Methods named for their operators

One method for each operator. The methods of pattern operators quote every
value, those of the other operators quote strings only. The methods that count
elements take an integer; each has a second name.
-/

namespace FilterQuery.Builder

/-! ## Comparison, pattern and membership -/

def equals (b : Builder) (property : Text) (value : Option Scalar) : Builder :=
  b.op property .equals value false

def notEquals (b : Builder) (property : Text) (value : Option Scalar) : Builder :=
  b.op property .notEquals value false

def greaterThan (b : Builder) (property : Text) (value : Option Scalar) : Builder :=
  b.op property .greaterThan value false

def lessThan (b : Builder) (property : Text) (value : Option Scalar) : Builder :=
  b.op property .lessThan value false

def greaterThanOrEqual (b : Builder) (property : Text) (value : Option Scalar) : Builder :=
  b.op property .greaterThanOrEqual value false

def lessThanOrEqual (b : Builder) (property : Text) (value : Option Scalar) : Builder :=
  b.op property .lessThanOrEqual value false

def has (b : Builder) (property : Text) (value : Option Scalar) : Builder :=
  b.op property .has value false

def doesNotHave (b : Builder) (property : Text) (value : Option Scalar) : Builder :=
  b.op property .doesNotHave value false

def startsWith (b : Builder) (property : Text) (value : Option Scalar) : Builder :=
  b.op property .startsWith value true

def doesNotStartWith (b : Builder) (property : Text) (value : Option Scalar) : Builder :=
  b.op property .doesNotStartWith value true

def endsWith (b : Builder) (property : Text) (value : Option Scalar) : Builder :=
  b.op property .endsWith value true

def doesNotEndWith (b : Builder) (property : Text) (value : Option Scalar) : Builder :=
  b.op property .doesNotEndWith value true

def contains (b : Builder) (property : Text) (value : Option Scalar) : Builder :=
  b.op property .contains value true

def doesNotContain (b : Builder) (property : Text) (value : Option Scalar) : Builder :=
  b.op property .doesNotContain value true

def soundsLike (b : Builder) (property : Text) (value : Option Scalar) : Builder :=
  b.op property .soundsLike value true

def doesNotSoundLike (b : Builder) (property : Text) (value : Option Scalar) : Builder :=
  b.op property .doesNotSoundLike value true

/-- Append the condition `property ^^ [v1,v2,...]`. -/
def isIn (b : Builder) (property : Text) (values : List (Option Scalar)) : Builder :=
  b.inList property .isIn values

/-- Append the condition `property !^^ [v1,v2,...]`. -/
def isNotIn (b : Builder) (property : Text) (values : List (Option Scalar)) : Builder :=
  b.inList property .isNotIn values

/-! ## Ignoring letter case -/

def equalsCaseInsensitive (b : Builder) (property : Text) (value : Option Scalar) : Builder :=
  b.op property .equalsCaseInsensitive value false

def notEqualsCaseInsensitive (b : Builder) (property : Text) (value : Option Scalar) : Builder :=
  b.op property .notEqualsCaseInsensitive value false

def hasCaseInsensitive (b : Builder) (property : Text) (value : Option Scalar) : Builder :=
  b.op property .hasCaseInsensitive value false

def doesNotHaveCaseInsensitive (b : Builder) (property : Text) (value : Option Scalar) : Builder :=
  b.op property .doesNotHaveCaseInsensitive value false

def startsWithCaseInsensitive (b : Builder) (property : Text) (value : Option Scalar) : Builder :=
  b.op property .startsWithCaseInsensitive value true

def doesNotStartWithCaseInsensitive (b : Builder) (property : Text) (value : Option Scalar) :
    Builder :=
  b.op property .doesNotStartWithCaseInsensitive value true

def endsWithCaseInsensitive (b : Builder) (property : Text) (value : Option Scalar) : Builder :=
  b.op property .endsWithCaseInsensitive value true

def doesNotEndWithCaseInsensitive (b : Builder) (property : Text) (value : Option Scalar) :
    Builder :=
  b.op property .doesNotEndWithCaseInsensitive value true

def containsCaseInsensitive (b : Builder) (property : Text) (value : Option Scalar) : Builder :=
  b.op property .containsCaseInsensitive value true

def doesNotContainCaseInsensitive (b : Builder) (property : Text) (value : Option Scalar) :
    Builder :=
  b.op property .doesNotContainCaseInsensitive value true

/-- Append the condition `property ^^* [v1,v2,...]`. -/
def isInCaseInsensitive (b : Builder) (property : Text) (values : List (Option Scalar)) : Builder :=
  b.inList property .isInCaseInsensitive values

/-- Append the condition `property !^^* [v1,v2,...]`. -/
def isNotInCaseInsensitive (b : Builder) (property : Text) (values : List (Option Scalar)) :
    Builder :=
  b.inList property .isNotInCaseInsensitive values

/-! ## Numbers of elements -/

def countGreaterThan (b : Builder) (property : Text) (count : Option Int64) : Builder :=
  b.op property .countGreaterThan (count.map Scalar.integer) false

def countLessThan (b : Builder) (property : Text) (count : Option Int64) : Builder :=
  b.op property .countLessThan (count.map Scalar.integer) false

def countGreaterThanOrEqual (b : Builder) (property : Text) (count : Option Int64) : Builder :=
  b.op property .countGreaterThanOrEqual (count.map Scalar.integer) false

def countLessThanOrEqual (b : Builder) (property : Text) (count : Option Int64) : Builder :=
  b.op property .countLessThanOrEqual (count.map Scalar.integer) false

def countEquals (b : Builder) (property : Text) (count : Option Int64) : Builder :=
  b.op property .countEquals (count.map Scalar.integer) false

def countNotEquals (b : Builder) (property : Text) (count : Option Int64) : Builder :=
  b.op property .countNotEquals (count.map Scalar.integer) false

def equalsCaseCount (b : Builder) (property : Text) (count : Option Int64) : Builder :=
  b.countEquals property count

def notEqualsCaseCount (b : Builder) (property : Text) (count : Option Int64) : Builder :=
  b.countNotEquals property count

def greaterThanCaseCount (b : Builder) (property : Text) (count : Option Int64) : Builder :=
  b.countGreaterThan property count

def lessThanCaseCount (b : Builder) (property : Text) (count : Option Int64) : Builder :=
  b.countLessThan property count

def greaterThanOrEqualCaseCount (b : Builder) (property : Text) (count : Option Int64) : Builder :=
  b.countGreaterThanOrEqual property count

def lessThanOrEqualCaseCount (b : Builder) (property : Text) (count : Option Int64) : Builder :=
  b.countLessThanOrEqual property count

/-! ## The methods by operator -/

/-- The methods that take any value, each with the operator it is named for. -/
def valueMethods : List (Operator × (Builder → Text → Option Scalar → Builder)) :=
  [(.equals, equals), (.notEquals, notEquals), (.greaterThan, greaterThan),
    (.lessThan, lessThan), (.greaterThanOrEqual, greaterThanOrEqual),
    (.lessThanOrEqual, lessThanOrEqual), (.has, has), (.doesNotHave, doesNotHave),
    (.startsWith, startsWith), (.doesNotStartWith, doesNotStartWith), (.endsWith, endsWith),
    (.doesNotEndWith, doesNotEndWith), (.contains, contains), (.doesNotContain, doesNotContain),
    (.soundsLike, soundsLike), (.doesNotSoundLike, doesNotSoundLike),
    (.equalsCaseInsensitive, equalsCaseInsensitive),
    (.notEqualsCaseInsensitive, notEqualsCaseInsensitive),
    (.hasCaseInsensitive, hasCaseInsensitive),
    (.doesNotHaveCaseInsensitive, doesNotHaveCaseInsensitive),
    (.startsWithCaseInsensitive, startsWithCaseInsensitive),
    (.doesNotStartWithCaseInsensitive, doesNotStartWithCaseInsensitive),
    (.endsWithCaseInsensitive, endsWithCaseInsensitive),
    (.doesNotEndWithCaseInsensitive, doesNotEndWithCaseInsensitive),
    (.containsCaseInsensitive, containsCaseInsensitive),
    (.doesNotContainCaseInsensitive, doesNotContainCaseInsensitive)]

/-- The methods that count elements, by both their names. -/
def countMethods : List (Operator × (Builder → Text → Option Int64 → Builder)) :=
  [(.countGreaterThan, countGreaterThan), (.countLessThan, countLessThan),
    (.countGreaterThanOrEqual, countGreaterThanOrEqual),
    (.countLessThanOrEqual, countLessThanOrEqual), (.countEquals, countEquals),
    (.countNotEquals, countNotEquals), (.countEquals, equalsCaseCount),
    (.countNotEquals, notEqualsCaseCount), (.countGreaterThan, greaterThanCaseCount),
    (.countLessThan, lessThanCaseCount), (.countGreaterThanOrEqual, greaterThanOrEqualCaseCount),
    (.countLessThanOrEqual, lessThanOrEqualCaseCount)]

/-- The methods that take a list of values. -/
def listMethods : List (ListOperator × (Builder → Text → List (Option Scalar) → Builder)) :=
  [(.isIn, isIn), (.isNotIn, isNotIn), (.isInCaseInsensitive, isInCaseInsensitive),
    (.isNotInCaseInsensitive, isNotInCaseInsensitive)]

/-! ### Every operator has a method -/

theorem mem_map_fst_valueMethods_iff {operator : Operator} :
    operator ∈ valueMethods.map Prod.fst ↔
      operator.family ≠ .count ∧ operator.takesList = false := by
  cases operator <;> decide

theorem mem_map_fst_countMethods_iff {operator : Operator} :
    operator ∈ countMethods.map Prod.fst ↔ operator.family = .count := by
  cases operator <;> decide

theorem mem_map_fst_listMethods (operator : ListOperator) :
    operator ∈ listMethods.map Prod.fst := by
  cases operator <;> decide

/-- An operator that takes a list has a method for lists, one that counts a method
that takes an integer, and any other a method that takes any value. -/
theorem exists_method (operator : Operator) :
    (∃ method, (operator, method) ∈ valueMethods) ∨
      (∃ method, (operator, method) ∈ countMethods) ∨
        ∃ (list : ListOperator) (method : _), list.toOperator = operator ∧
          (list, method) ∈ listMethods := by
  by_cases hcount : operator.family = .count
  · have hmem := mem_map_fst_countMethods_iff.mpr hcount
    exact .inr (.inl (by simpa using hmem))
  cases hlist : operator.toList? with
  | none =>
      have htakes : operator.takesList = false := by rw [Operator.takesList, hlist, Option.isSome]
      have hmem := mem_map_fst_valueMethods_iff.mpr ⟨hcount, htakes⟩
      exact .inl (by simpa using hmem)
  | some list =>
      obtain ⟨method, hmethod⟩ : ∃ method, (list, method) ∈ listMethods := by
        simpa using mem_map_fst_listMethods list
      exact .inr (.inr ⟨list, method, Operator.toOperator_of_toList? hlist, hmethod⟩)

/-! ### What a method does -/

variable {operator : Operator} {property : Text}

/-- A method quotes its value exactly if its operator matches patterns. -/
theorem valueMethod_eq_op {method : Builder → Text → Option Scalar → Builder}
    (h : (operator, method) ∈ valueMethods) (b : Builder) (value : Option Scalar) :
    method b property value = b.op property operator value operator.isPattern := by
  have hall : ∀ entry ∈ valueMethods,
      entry.2 b property value = b.op property entry.1 value entry.1.isPattern := by
    simp only [valueMethods, List.forall_mem_cons, List.not_mem_nil, false_implies, implies_true,
      and_true]
    and_intros <;> rfl
  exact hall _ h

theorem countMethod_eq_op {method : Builder → Text → Option Int64 → Builder}
    (h : (operator, method) ∈ countMethods) (b : Builder) (count : Option Int64) :
    method b property count =
      b.op property operator (count.map Scalar.integer) operator.isPattern := by
  have hall : ∀ entry ∈ countMethods, entry.2 b property count =
      b.op property entry.1 (count.map Scalar.integer) entry.1.isPattern := by
    simp only [countMethods, List.forall_mem_cons, List.not_mem_nil, false_implies, implies_true,
      and_true]
    and_intros <;> rfl
  exact hall _ h

theorem listMethod_eq_inList {operator : ListOperator}
    {method : Builder → Text → List (Option Scalar) → Builder}
    (h : (operator, method) ∈ listMethods) (b : Builder) (values : List (Option Scalar)) :
    method b property values = b.inList property operator values := by
  have hall : ∀ entry ∈ listMethods,
      entry.2 b property values = b.inList property entry.1 values := by
    simp only [listMethods, List.forall_mem_cons, List.not_mem_nil, false_implies, implies_true,
      and_true]
    and_intros <;> rfl
  exact hall _ h

end FilterQuery.Builder
