/-!
# Primitive types

The built-in scalar types of Kotlin, which have a fixed default value and, for numbers, booleans and
characters, an array class of their own.
-/

namespace KotlinFakes

/-- A built-in scalar type. -/
inductive Primitive where
  | string
  | int
  | long
  | short
  | byte
  | float
  | double
  | boolean
  | char
  | unit
  | any
  | nothing
  deriving Repr, DecidableEq

namespace Primitive

def all : List Primitive :=
  [string, int, long, short, byte, float, double, boolean, char, unit, any, nothing]

/-- The simple name of the class. -/
def name : Primitive → String
  | string => "String"
  | int => "Int"
  | long => "Long"
  | short => "Short"
  | byte => "Byte"
  | float => "Float"
  | double => "Double"
  | boolean => "Boolean"
  | char => "Char"
  | unit => "Unit"
  | any => "Any"
  | nothing => "Nothing"

def ofName? (simple : String) : Option Primitive :=
  all.find? fun p => p.name = simple

/-- The primitive of a full name in the package `kotlin`. -/
def ofFullName? (full : String) : Option Primitive :=
  all.find? fun p => "kotlin." ++ p.name = full

/-- The array class made for elements of this primitive. -/
def arrayClass? : Primitive → Option String
  | int => some "IntArray"
  | long => some "LongArray"
  | short => some "ShortArray"
  | byte => some "ByteArray"
  | float => some "FloatArray"
  | double => some "DoubleArray"
  | boolean => some "BooleanArray"
  | char => some "CharArray"
  | string | unit | any | nothing => none

end Primitive

end KotlinFakes
