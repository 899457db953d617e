import CowView.Generated.Record

/-!
The generated text of a union: its class, which tells variants apart by their discriminant, the class
of each variant, and the view classes of all of them.
-/

namespace CowView.Generated

open Text (quoted)

def test (isFirst : Bool) (variant : VariantView) : String :=
  "        " ++ (if isFirst then "if" else "elif") ++ " discriminant == " ++
    quoted variant.variant.name ++ ":"

def perVariant (lines : Bool → VariantView → List String) : List VariantView → List String
  | [] => []
  | first :: rest => lines true first ++ rest.flatMap (lines false)

def takeApart (view : View) (isFirst : Bool) (variant : VariantView) : List String :=
  let head := "return " ++ view.viewName ++ "." ++ variant.variant.name
  [test isFirst variant, "            if this.is_owned:"] ++
    callOwned "                " head variant.fields ++
    callBorrowed "            " head variant.fields

def putTogether (view : View) (isFirst : Bool) (variant : VariantView) : List String :=
  test isFirst variant ::
    callBack "            " ("return " ++ view.name ++ "." ++ variant.variant.name) variant.fields

def variantHead (owner variant name : String) : List String :=
  ["",
    "",
    "@_rt.variant_of(" ++ owner ++ ", " ++ quoted variant ++ ")",
    "@_dataclass",
    "class " ++ name ++ "(" ++ owner ++ "):"]

def variantClass (view : View) (variant : VariantView) : List String :=
  let docs := DocComment.lines variant.variant.docs
  variantHead view.name variant.variant.name (view.variantClass variant) ++
    docstring docs ++ [""] ++
    (if docs.isEmpty && variant.fields.isEmpty then ["    pass"] else []) ++
    sourceFields variant.fields ++ [""]

def variantViewClass (view : View) (variant : VariantView) : List String :=
  variantHead view.viewName variant.variant.name (view.variantViewClass variant) ++
    viewDocs (view.name ++ "." ++ variant.variant.name) ++
    viewFields variant.fields ++ [""]

/-- The line that refuses a value without a known discriminant. -/
def refuse (subject name : String) : String :=
  "        raise _errors.UnsatisfiedCapabilityError(" ++ subject ++ ", " ++ quoted name ++ ")"

def union (view : View) (variants : List VariantView) : List String :=
  ["class " ++ view.name ++ "(" ++ bases "_rt.Butcher, _rt.Sum" view.typeVariables ++ "):"] ++
  docstring view.docLines ++
  ["",
    "    SIGNATURE = " ++ quoted view.signature.render,
    "    BOUNDS = " ++ strings view.clauses,
    "    VARIANTS = " ++ strings (variants.map (·.variant.name)),
    "",
    "    @classmethod",
    "    def butcher(cls, this):",
    "        if this.is_owned:",
    "            value = this.into_owned()",
    "        else:",
    "            value = this.referent",
    "        discriminant = value.discriminant"] ++
  perVariant (takeApart view) variants ++
  [refuse "value" view.name,
    "",
    "    @classmethod",
    "    def unbutcher(cls, view):",
    "        discriminant = view.discriminant"] ++
  perVariant (putTogether view) variants ++
  [refuse "view" view.viewName] ++
  variants.flatMap (variantClass view) ++
  ["",
    "",
    "class " ++ view.viewName ++ "(" ++ bases "_rt.View, _rt.Sum" view.typeVariables ++ "):"] ++
  viewDocs view.signature.render ++
  ["    SOURCE = " ++ view.name,
    "    VARIANTS = " ++ view.name ++ ".VARIANTS"] ++
  variants.flatMap (variantViewClass view)

end CowView.Generated
