/-!
# `FlowDraft.Label.Keywords`: the words that labels are given for

Each table lists labels with their keywords. A label is given to a text that holds one of its
keywords anywhere, in small letters. The keywords are chosen so that common words do not hide
them: `advertis` stands in place of `ads`, which `threads` holds.

In the table of triggers the order counts: the first label with a keyword in the text wins.

The tables are those that `_matching_labels` and `_first_matching_label` look into.
-/

set_option autoImplicit false

namespace FlowDraft.Label

/-- Labels with their keywords. -/
abbrev KeywordTable := List (String × List String)

/-- The industries. -/
def industryKeywords : KeywordTable :=
  [("ecommerce", ["shopify", "ecommerce", "e-commerce", "woocommerce", "merchant", "storefront"]),
   ("marketing", ["marketing", "campaign", "advertis", "ugc", "brand", "seo"]),
   ("sales", ["sales", "crm", "prospect", "outreach", "hubspot", "salesforce"]),
   ("media", ["video", "youtube", "tiktok", "podcast", "music", "influencer"]),
   ("recruiting", ["recruit", "hiring", "job board", "job post", "candidate", "resume"]),
   ("finance", ["invoice", "finance", "accounting", "payment", "expense", "stripe"]),
   ("support", ["customer support", "helpdesk", "support ticket", "zendesk", "freshdesk"])]

/-- The domains of work. -/
def domainKeywords : KeywordTable :=
  [("summaries", ["summar", "digest", "recap", "tl;dr"]),
   ("research", ["research", "scrap", "crawl", "monitor"]),
   ("content", ["blog", "article", "caption", "copywrit", "scripts", "draft"]),
   ("lead generation", ["lead gen", "leadgen", "leads", "enrich"]),
   ("scheduling", ["schedul", "calendar", "publish"]),
   ("data sync", ["sync", "spreadsheet", "google sheets", "airtable", "database", "backup"]),
   ("approvals", ["approval", "approve", "human-in-the-loop", "sign-off", "signoff"]),
   ("notifications", ["notify", "notification", "alert", "remind"])]

/-- The channels of delivery. -/
def channelKeywords : KeywordTable :=
  [("slack", ["slack"]),
   ("email", ["email", "gmail", "outlook", "newsletter"]),
   ("telegram", ["telegram"]),
   ("discord", ["discord"]),
   ("linkedin", ["linkedin"]),
   ("instagram", ["instagram"]),
   ("whatsapp", ["whatsapp"]),
   ("sms", ["sms", "twilio", "text message"]),
   ("twitter", ["twitter", "tweet"])]

/-- What sets a workflow off, in order of precedence. -/
def triggerKeywords : KeywordTable :=
  [("webhook", ["webhook", "form submission", "http request", "api call"]),
   ("schedule",
    ["daily", "every day", "every morning", "weekly", "hourly", "cron", "each morning"]),
   ("email", ["new email", "incoming email", "when an email", "inbox"]),
   ("manual", ["manual", "on demand", "on-demand", "button"]),
   ("event", ["whenever", "new row", "new order", "new lead", "new file"])]

end FlowDraft.Label
