/-!
The packaged templates, as they can be looked up by name. `CowView.Generated` writes what they say.
-/

namespace CowView.Template

def moduleLines : List String :=
  [
    "# Generated by butcher \x7b\x7b module.version \x7d\x7d\x7b% if module.namespace %\x7d from namespace \x7b\x7b module.namespace \x7d\x7d\x7b% endif %\x7d. Do not edit.",
    "",
    "import typing as _typing",
    "from dataclasses import dataclass as _dataclass",
    "from butcher import errors as _errors",
    "from butcher import runtime as _rt",
    "",
    "\x7b% for name in module.type_vars %\x7d",
    "\x7b\x7b name \x7d\x7d = _typing.TypeVar(\x7b\x7b repr(name) \x7d\x7d)",
    "\x7b% endfor %\x7d",
    "\x7b% for decl in module.declarations %\x7d",
    "",
    "\x7b% if decl.is_record %\x7d",
    "\x7b% include \"record\" %\x7d",
    "\x7b% else %\x7d",
    "\x7b% include \"union\" %\x7d",
    "\x7b% endif %\x7d",
    "\x7b% endfor %\x7d",
    "",
    "__all__ = [",
    "\x7b% for name in module.public_names %\x7d",
    "    \x7b\x7b repr(name) \x7d\x7d,",
    "\x7b% endfor %\x7d",
    "]"]

def recordLines : List String :=
  [
    "\x7b% import \"macros\" as m %\x7d",
    "@_dataclass",
    "class \x7b\x7b decl.name \x7d\x7d(\x7b\x7b m.bases(\"_rt.Butcher\", decl) \x7d\x7d):",
    "\x7b\x7b m.docstring(decl.doc_lines) \x7d\x7d",
    "    SIGNATURE = \x7b\x7b repr(decl.signature_str) \x7d\x7d",
    "    BOUNDS = \x7b\x7b m.strings(decl.bounds) \x7d\x7d",
    "",
    "\x7b\x7b m.source_fields(decl.fields) \x7d\x7d",
    "",
    "    @classmethod",
    "    def butcher(cls, this):",
    "        if this.is_owned:",
    "            value = this.into_owned()",
    "            return \x7b\x7b decl.view_name \x7d\x7d(",
    "\x7b\x7b m.butcher_args(decl.fields, \"                \") \x7d\x7d",
    "            )",
    "        value = this.referent",
    "        return \x7b\x7b decl.view_name \x7d\x7d(",
    "\x7b\x7b m.butcher_args(decl.fields, \"            \", \"this.scope\") \x7d\x7d",
    "        )",
    "",
    "    @classmethod",
    "    def unbutcher(cls, view):",
    "        return cls(",
    "\x7b\x7b m.unbutcher_args(decl.fields, \"            \") \x7d\x7d",
    "        )",
    "",
    "",
    "@_dataclass",
    "class \x7b\x7b decl.view_name \x7d\x7d(\x7b\x7b m.bases(\"_rt.View\", decl) \x7d\x7d):",
    "    \"\"\"",
    "    Butchered view of \x7b\x7b decl.signature_str \x7d\x7d",
    "    \"\"\"",
    "    SOURCE = \x7b\x7b decl.name \x7d\x7d",
    "",
    "\x7b\x7b m.view_fields(decl.fields) \x7d\x7d"]

def unionLines : List String :=
  [
    "\x7b% import \"macros\" as m %\x7d",
    "class \x7b\x7b decl.name \x7d\x7d(\x7b\x7b m.bases(\"_rt.Butcher, _rt.Sum\", decl) \x7d\x7d):",
    "\x7b\x7b m.docstring(decl.doc_lines) \x7d\x7d",
    "    SIGNATURE = \x7b\x7b repr(decl.signature_str) \x7d\x7d",
    "    BOUNDS = \x7b\x7b m.strings(decl.bounds) \x7d\x7d",
    "    VARIANTS = \x7b\x7b m.strings(decl.variants | map(attribute = \"name\")) \x7d\x7d",
    "",
    "    @classmethod",
    "    def butcher(cls, this):",
    "        if this.is_owned:",
    "            value = this.into_owned()",
    "        else:",
    "            value = this.referent",
    "        discriminant = value.discriminant",
    "\x7b% for variant in decl.variants %\x7d",
    "        \x7b\x7b \"if\" if loop.first else \"elif\" \x7d\x7d discriminant == \x7b\x7b repr(variant.name) \x7d\x7d:",
    "            if this.is_owned:",
    "                return \x7b\x7b decl.view_name \x7d\x7d.\x7b\x7b variant.name \x7d\x7d(",
    "\x7b\x7b m.butcher_args(variant.fields, \"                    \") \x7d\x7d",
    "                )",
    "            return \x7b\x7b decl.view_name \x7d\x7d.\x7b\x7b variant.name \x7d\x7d(",
    "\x7b\x7b m.butcher_args(variant.fields, \"                \", \"this.scope\") \x7d\x7d",
    "            )",
    "\x7b% endfor %\x7d",
    "        raise _errors.UnsatisfiedCapabilityError(value, \x7b\x7b repr(decl.name) \x7d\x7d)",
    "",
    "    @classmethod",
    "    def unbutcher(cls, view):",
    "        discriminant = view.discriminant",
    "\x7b% for variant in decl.variants %\x7d",
    "        \x7b\x7b \"if\" if loop.first else \"elif\" \x7d\x7d discriminant == \x7b\x7b repr(variant.name) \x7d\x7d:",
    "            return \x7b\x7b decl.name \x7d\x7d.\x7b\x7b variant.name \x7d\x7d(",
    "\x7b\x7b m.unbutcher_args(variant.fields, \"                \") \x7d\x7d",
    "            )",
    "\x7b% endfor %\x7d",
    "        raise _errors.UnsatisfiedCapabilityError(view, \x7b\x7b repr(decl.view_name) \x7d\x7d)",
    "\x7b% for variant in decl.variants %\x7d",
    "",
    "",
    "@_rt.variant_of(\x7b\x7b decl.name \x7d\x7d, \x7b\x7b repr(variant.name) \x7d\x7d)",
    "@_dataclass",
    "class \x7b\x7b variant.class_name \x7d\x7d(\x7b\x7b decl.name \x7d\x7d):",
    "\x7b\x7b m.docstring(variant.doc_lines) \x7d\x7d",
    "\x7b% if not variant.doc_lines and not variant.fields %\x7d",
    "    pass",
    "\x7b% endif %\x7d",
    "\x7b\x7b m.source_fields(variant.fields) \x7d\x7d",
    "\x7b% endfor %\x7d",
    "",
    "",
    "class \x7b\x7b decl.view_name \x7d\x7d(\x7b\x7b m.bases(\"_rt.View, _rt.Sum\", decl) \x7d\x7d):",
    "    \"\"\"",
    "    Butchered view of \x7b\x7b decl.signature_str \x7d\x7d",
    "    \"\"\"",
    "    SOURCE = \x7b\x7b decl.name \x7d\x7d",
    "    VARIANTS = \x7b\x7b decl.name \x7d\x7d.VARIANTS",
    "\x7b% for variant in decl.variants %\x7d",
    "",
    "",
    "@_rt.variant_of(\x7b\x7b decl.view_name \x7d\x7d, \x7b\x7b repr(variant.name) \x7d\x7d)",
    "@_dataclass",
    "class \x7b\x7b variant.view_class_name \x7d\x7d(\x7b\x7b decl.view_name \x7d\x7d):",
    "    \"\"\"",
    "    Butchered view of \x7b\x7b decl.name \x7d\x7d.\x7b\x7b variant.name \x7d\x7d",
    "    \"\"\"",
    "\x7b\x7b m.view_fields(variant.fields) \x7d\x7d",
    "\x7b% endfor %\x7d"]

def macrosLines : List String :=
  [
    "\x7b% macro bases(first, decl) -%\x7d",
    "\x7b\x7b first \x7d\x7d\x7b% if decl.type_vars %\x7d, _typing.Generic[\x7b\x7b decl.type_vars | join(\", \") \x7d\x7d]\x7b% endif %\x7d",
    "\x7b%- endmacro %\x7d",
    "",
    "\x7b% macro docstring(lines) -%\x7d",
    "\x7b% if lines %\x7d",
    "    \"\"\"",
    "\x7b% for line in lines %\x7d",
    "    \x7b\x7b line \x7d\x7d",
    "\x7b% endfor %\x7d",
    "    \"\"\"",
    "\x7b% endif %\x7d",
    "\x7b%- endmacro %\x7d",
    "",
    "\x7b% macro strings(values) -%\x7d",
    "(\x7b% for value in values %\x7d\x7b\x7b repr(value) \x7d\x7d, \x7b% endfor %\x7d)",
    "\x7b%- endmacro %\x7d",
    "",
    "\x7b% macro source_fields(fields) -%\x7d",
    "\x7b% for field in fields %\x7d",
    "    \x7b\x7b field.attr_name \x7d\x7d : \x7b\x7b repr(field.source_type_str) \x7d\x7d",
    "\x7b% endfor %\x7d",
    "\x7b%- endmacro %\x7d",
    "",
    "\x7b% macro view_fields(fields) -%\x7d",
    "\x7b% for field in fields %\x7d",
    "    \x7b\x7b field.attr_name \x7d\x7d : \x7b\x7b repr(field.view_type_str) \x7d\x7d",
    "\x7b% endfor %\x7d",
    "\x7b%- endmacro %\x7d",
    "",
    "\x7b#",
    "    Arguments of a view constructor, one per field, each passed through its",
    "    butchering method.  scope is empty when the input is owned.",
    "#\x7d",
    "\x7b% macro butcher_args(fields, indent, scope = \"\") -%\x7d",
    "\x7b% for field in fields %\x7d",
    "\x7b% if scope %\x7d",
    "\x7b\x7b indent \x7d\x7d\x7b\x7b field.attr_name \x7d\x7d = _rt.methods.\x7b\x7b field.method \x7d\x7d.from_borrowed(value.\x7b\x7b field.attr_name \x7d\x7d, \x7b\x7b scope \x7d\x7d),",
    "\x7b% else %\x7d",
    "\x7b\x7b indent \x7d\x7d\x7b\x7b field.attr_name \x7d\x7d = _rt.methods.\x7b\x7b field.method \x7d\x7d.from_owned(value.\x7b\x7b field.attr_name \x7d\x7d),",
    "\x7b% endif %\x7d",
    "\x7b% endfor %\x7d",
    "\x7b%- endmacro %\x7d",
    "",
    "\x7b% macro unbutcher_args(fields, indent) -%\x7d",
    "\x7b% for field in fields %\x7d",
    "\x7b\x7b indent \x7d\x7d\x7b\x7b field.attr_name \x7d\x7d = _rt.methods.\x7b\x7b field.method \x7d\x7d.to_owned(view.\x7b\x7b field.attr_name \x7d\x7d),",
    "\x7b% endfor %\x7d",
    "\x7b%- endmacro %\x7d"]

/-- The templates that come with the program. -/
inductive Packaged where
  | module
  | record
  | union
  | macros
  deriving DecidableEq, Repr

namespace Packaged

def text : Packaged → String
  | module => String.join (moduleLines.map (· ++ "\n"))
  | record => String.join (recordLines.map (· ++ "\n"))
  | union => String.join (unionLines.map (· ++ "\n"))
  | macros => String.join (macrosLines.map (· ++ "\n"))

/-- The name of the file that holds a template. -/
def file : Packaged → String
  | module => "module.tpl"
  | record => "record.tpl"
  | union => "union.tpl"
  | macros => "macros.tpl"

def all : List Packaged := [module, record, union, macros]

def ofFile? (file : String) : Option Packaged := all.find? (·.file = file)

/-- A path without the parts in front that stay where they are, which are empty or a single dot. -/
def skipParts : List Char → List Char
  | '.' :: '/' :: rest => skipParts rest
  | '/' :: rest => skipParts rest
  | path => path

def ofPath? (path : String) : Option Packaged := ofFile? (String.ofList (skipParts path.toList))

theorem ofPath?_file (template : Packaged) : ofPath? template.file = some template := by
  cases template <;> decide

end Packaged

end CowView.Template
