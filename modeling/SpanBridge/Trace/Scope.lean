import SpanBridge.Value.Basic

/-!
# Instrumentation scopes

A scope names the library that produced a span. Scopes were once called instrumentation libraries; a
`LegacyScope` is the same record under the former name, and `Scope.toLegacy` and
`LegacyScope.toCurrent` undo each other. Nobody checks the types of the fields; `Value.null` stands
for a missing one.
-/

set_option autoImplicit false
set_option relaxedAutoImplicit false

namespace SpanBridge

/-- The library or module that produced a span. -/
structure Scope where
  name : Value
  version : Value := .null
  schemaUrl : Value := .null
  deriving DecidableEq, Repr

/-- A scope under its former name of an instrumentation library. -/
structure LegacyScope where
  name : Value
  version : Value := .null
  schemaUrl : Value := .null
  deriving DecidableEq, Repr

def Scope.empty : Scope := { name := .str "" }

def Scope.toLegacy (scope : Scope) : LegacyScope :=
  ⟨scope.name, scope.version, scope.schemaUrl⟩

def LegacyScope.toCurrent (library : LegacyScope) : Scope :=
  ⟨library.name, library.version, library.schemaUrl⟩

@[simp] theorem Scope.toCurrent_toLegacy (scope : Scope) : scope.toLegacy.toCurrent = scope := rfl

@[simp] theorem LegacyScope.toLegacy_toCurrent (library : LegacyScope) :
    library.toCurrent.toLegacy = library := rfl

end SpanBridge
