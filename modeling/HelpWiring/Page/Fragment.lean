import HelpWiring.Text.Lines

/-!
# Fragments

What a page needs for its help popup comes in three fragments: the two import
lines, the hook call inside the page function, and the popup element in front
of the page's closing lines. The last two name the page by its tag, the key
under which the help text is kept.

A fragment counts as present if a telltale piece of it occurs anywhere in the
page, in a comment as well as in code, and with either kind of quote around
the tag. The guards are weaker than the fragments on purpose: a page that was
wired by hand is left alone.

## Main definitions

* `Kind`: The three fragments, in the order they are applied.
* `Selection`: Which of them are wanted.
* `Kind.text`: The text of a fragment.
* `hasFragment`: Whether a page has a fragment.

## Theorems

* `kinds_ofKinds`: A selection lists the kinds it was made of, in order and
  without repeats.
-/

namespace HelpWiring

/-- The three fragments, in the order they are applied. -/
inductive Kind
  | imports
  | hook
  | component
  deriving DecidableEq

namespace Kind

/-- All kinds, in the order they are applied. -/
def all : List Kind := [.imports, .hook, .component]

/-- The word for a kind. -/
def name : Kind → Text
  | imports => "imports".toList
  | hook => "hook".toList
  | component => "component".toList

/-- The kind that a word stands for. -/
def ofName? (word : Text) : Option Kind := all.find? fun k => k.name == word

end Kind

/-- Which fragments are wanted. -/
structure Selection where
  imports : Bool
  hook : Bool
  component : Bool
  deriving DecidableEq

namespace Selection

/-- Every fragment. -/
def all : Selection := ⟨true, true, true⟩

/-- The fragments of a list, whatever its order and its repeats. -/
def ofKinds (ks : List Kind) : Selection :=
  ⟨ks.contains .imports, ks.contains .hook, ks.contains .component⟩

/-- Whether a fragment is wanted. -/
def has (s : Selection) : Kind → Bool
  | .imports => s.imports
  | .hook => s.hook
  | .component => s.component

/-- The wanted fragments, in the order they are applied. -/
def kinds (s : Selection) : List Kind := Kind.all.filter s.has

theorem has_ofKinds (ks : List Kind) (k : Kind) : (ofKinds ks).has k = ks.contains k := by
  cases k <;> rfl

theorem kinds_ofKinds (ks : List Kind) : (ofKinds ks).kinds = Kind.all.filter (ks.contains ·) :=
  congrArg Kind.all.filter (funext (has_ofKinds ks))

end Selection

/-- The line that imports the hook, without its semicolon. -/
def hookImport : Text := "import \x7b useHelpPopup \x7d from '../hooks/useHelpPopup'".toList

/-- The line that imports the popup, without its semicolon. -/
def popupImport : Text := "import \x7b HelpPopup \x7d from '../components/HelpPopup'".toList

/-- The name of the hook. -/
def hookName : Text := "useHelpPopup".toList

/-- The name of the popup. -/
def popupName : Text := "HelpPopup".toList

/-- Both import lines. -/
def importLines : Text := Text.unlines [hookImport ++ [';'], popupImport ++ [';']]

/-- The statement that calls the hook, without indentation. -/
def hookLine (tag : Text) : Text :=
  "const helpPopup = useHelpPopup('".toList ++ tag ++ "');".toList

/-- The popup element. It starts with a line feed and ends with one, so the
    closing lines after it keep their own. -/
def popupElement (tag : Text) : Text :=
  "\n      \x7b/* Help Popup */\x7d\n      <HelpPopup\n        pageKey=\"".toList ++ tag
    ++ ("\"\n        isOpen=\x7bhelpPopup.isOpen\x7d\n        ".toList
      ++ "onClose=\x7bhelpPopup.closePopup\x7d\n      />\n".toList)

/-- The text of a fragment. -/
def Kind.text : Kind → Text → Text
  | imports, _ => importLines
  | hook, tag => hookLine tag
  | component, tag => popupElement tag

/-- A call of the hook with a tag in some quotes. -/
def hookCall (quote : Char) (tag : Text) : Text :=
  "useHelpPopup(".toList ++ quote :: (tag ++ [quote, ')'])

/-- The attribute that hands a tag in some quotes to the popup. -/
def keyAttribute (quote : Char) (tag : Text) : Text :=
  "pageKey=".toList ++ quote :: (tag ++ [quote])

/-- Whether a page has a fragment. -/
def hasFragment (page : Text) (kind : Kind) (tag : Text) : Bool :=
  match kind with
  | .imports => page.mentions hookName && page.mentions popupName
  | .hook => page.mentions (hookCall '\'' tag) || page.mentions (hookCall '"' tag)
  | .component => page.mentions (keyAttribute '"' tag) || page.mentions (keyAttribute '\'' tag)

end HelpWiring
