import HelpWiring.Catalog.Basic

/-!
# The Standard Catalog

The pages that are wired when no catalog file is given. Two pages may share a
tag, and with it a help text; no file is listed twice.

## Main definitions

* `standardPages`: The table.
* `Catalog.standard`: The table as a catalog.

## Theorems

* `ofPairs_standard`: The table passes the checks that a catalog file has to
  pass.
-/

namespace HelpWiring

/-- Page files and their tags. -/
def standardPages : List (String × String) :=
  [("RemindersPage.tsx", "reminders"),
   ("DashboardPage.tsx", "feed"),
   ("SynapseReviewPage.tsx", "review"),
   ("ReminderSchedulePage.tsx", "reminder-schedule"),
   ("WordsPage.tsx", "words"),
   ("WordDetailPage.tsx", "word-detail"),
   ("QuestionsPage.tsx", "questions"),
   ("QuestionDetailPage.tsx", "question-detail"),
   ("PersonBuilderPage.tsx", "people"),
   ("PersonDetailPage.tsx", "person-detail"),
   ("RelationshipGraphPage.tsx", "relationships"),
   ("LocationBuilderPage.tsx", "locations"),
   ("LocationMemoriesPage.tsx", "locations"),
   ("ImageBuilderPage.tsx", "images"),
   ("UrlBuilderPage.tsx", "urls"),
   ("YouTubeBuilderPage.tsx", "youtube-videos"),
   ("YouTubeVideoMemoriesPage.tsx", "youtube-videos"),
   ("TikTokVideosListPage.tsx", "tiktok-videos"),
   ("TikTokVideoDetailPage.tsx", "tiktok-videos"),
   ("TikTokBuilderPage.tsx", "tiktok-builder"),
   ("TwitterPostsListPage.tsx", "twitter-posts"),
   ("TwitterPostDetailPage.tsx", "twitter-posts"),
   ("ProjectsPage.tsx", "projects"),
   ("ProjectDetailPage.tsx", "project-detail"),
   ("TrainingsPage.tsx", "trainings"),
   ("TrainingDetailPage.tsx", "training-detail"),
   ("SlideDecksListPage.tsx", "slidedecks"),
   ("SlideDeckReminderSelectionPage.tsx", "slidedecks"),
   ("SlideDeckViewerPage.tsx", "slidedeck-viewer"),
   ("TrainingDecksListPage.tsx", "training-decks"),
   ("TrainingDeckViewerPage.tsx", "training-deck-viewer"),
   ("AtlasPage.tsx", "atlas"),
   ("UpgradePage.tsx", "upgrade"),
   ("AdminPanelPage.tsx", "admin"),
   ("AuditTrailPage.tsx", "audit-trail"),
   ("MemoryDetailPage.tsx", "memory-detail"),
   ("LinkMemoryPage.tsx", "memory-detail")]

/-- The pages that need no catalog file. -/
def Catalog.standard : Catalog :=
  ⟨standardPages.map fun (file, tag) => ⟨file.toList, tag.toList⟩⟩

theorem ofPairs_standard :
    (Catalog.ofPairs (standardPages.map fun (file, tag) => (file.toList, tag.toList))).toOption
      = some Catalog.standard := by
  decide +kernel

end HelpWiring
